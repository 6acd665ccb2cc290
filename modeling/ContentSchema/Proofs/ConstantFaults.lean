import Mathlib
import ContentSchema.Proofs.ConstantNames
import ContentSchema.Proofs.FieldVisits

/-!
# The first constant that cannot be declared

The constants of a configuration are declared one after the other.  A constant
offends at its position when it is no identifier, when the module binds its name
already, or when an earlier declaration has it.  Validity fails with the least
position that offends, if there is one, and what is wrong there decides the kind of
the error; the fields of the collections play no part.  Without such a position
validity is a matter of the fields alone.
-/

namespace ContentSchema

/-! ## Offences -/

/-- A constant cannot be declared at its position among others. -/
structure Offends (constants : List String) (position : Nat) (constant : String) : Prop where
  listed : constants[position]? = some constant
  reason : Text.isIdentifier constant = false ∨ constant ∈ Module.reservedBindings ∨
    ∃ earlier < position, constants[earlier]? = some constant

/-- An offence with none before it. -/
structure FirstOffence (constants : List String) (position : Nat) (constant : String) :
    Prop where
  offends : Offends constants position constant
  least : ∀ earlier other, earlier < position → ¬ Offends constants earlier other

/-- What an offence is reported as: only a constant with the right shape can be taken. -/
def Error.ofConstant (constant : String) : Error :=
  if Text.isIdentifier constant then .duplicateConstant constant
  else .invalidIdentifier constant

/-- The constants of a configuration can all be declared, one after the other. -/
structure Config.ValidConstants (config : Config) : Prop where
  identifiers : ∀ constant ∈ config.constants, Text.isIdentifier constant = true
  free : ∀ constant ∈ config.constants, constant ∉ Module.reservedBindings
  distinct : config.constants.Nodup

theorem Error.ofConstant_cases (constant : String) :
    Error.ofConstant constant = .invalidIdentifier constant ∨
      Error.ofConstant constant = .duplicateConstant constant := by
  unfold Error.ofConstant
  split
  · exact .inr rfl
  · exact .inl rfl

theorem Offends.take
    {constants : List String} {limit position : Nat} {constant : String}
    (offends : Offends (constants.take limit) position constant) :
    position < limit ∧ Offends constants position constant := by
  rcases offends with ⟨listed, reason⟩
  have inside : position < limit := by
    have shorter := (List.getElem?_eq_some_iff.mp listed).1
    rw [List.length_take] at shorter
    omega
  have whole : ∀ earlier ≤ position, (constants.take limit)[earlier]? = constants[earlier]? :=
    fun earlier before => List.getElem?_take_of_lt (by omega)
  refine ⟨inside, whole position le_rfl ▸ listed, ?_⟩
  rcases reason with shape | reserved | ⟨earlier, before, again⟩
  · exact .inl shape
  · exact .inr (.inl reserved)
  · exact .inr (.inr ⟨earlier, before, whole earlier before.le ▸ again⟩)

/-- Among positions that offend there is a least one. -/
theorem Offends.exists_first
    {constants : List String} {position : Nat} {constant : String}
    (offends : Offends constants position constant) :
    ∃ first culprit, FirstOffence constants first culprit := by
  classical
  have some : ∃ place, ∃ other, Offends constants place other := ⟨position, constant, offends⟩
  rcases Nat.find_spec some with ⟨culprit, found⟩
  refine ⟨Nat.find some, culprit, found, ?_⟩
  intro earlier other before offending
  exact Nat.find_min some before ⟨other, offending⟩

/-! ## The check of constants -/

namespace Validity

/-- All constants can be declared when no position offends. -/
theorem checkConstants_eq_ok_iff_offends {constants : List String} :
    checkConstants Module.reservedBindings constants = .ok () ↔
      ∀ position constant, ¬ Offends constants position constant := by
  rw [checkConstants_eq_ok_iff]
  constructor
  · rintro ⟨identifiers, free, distinct⟩ position constant ⟨listed, reason⟩
    have member := List.mem_of_getElem? listed
    rcases reason with shape | reserved | ⟨earlier, before, again⟩
    · rw [identifiers constant member] at shape
      cases shape
    · exact free constant member reserved
    · have inside := (List.getElem?_eq_some_iff.mp listed).1
      rw [← listed] at again
      exact (List.nodup_iff_getElem?_ne_getElem?.mp distinct earlier position before inside) again
  · intro fine
    refine ⟨?_, ?_, ?_⟩
    · intro constant member
      rcases List.mem_iff_getElem?.mp member with ⟨position, listed⟩
      by_contra shape
      exact fine position constant ⟨listed, .inl (Bool.eq_false_iff.mpr shape)⟩
    · intro constant member reserved
      rcases List.mem_iff_getElem?.mp member with ⟨position, listed⟩
      exact fine position constant ⟨listed, .inr (.inl reserved)⟩
    · rw [List.nodup_iff_getElem?_ne_getElem?]
      intro earlier position before inside again
      have listed := List.getElem?_eq_getElem inside
      exact fine position _ ⟨listed, .inr (.inr ⟨earlier, before, again.trans listed⟩)⟩

/-- What precedes an offending constant, if it passes, leaves the error to that constant. -/
theorem checkConstants_append_cons
    {taken before after : List String} {constant : String}
    (passed : checkConstants taken before = .ok ())
    (reason : Text.isIdentifier constant = false ∨ constant ∈ taken ∨ constant ∈ before) :
    checkConstants taken (before ++ constant :: after) = .error (.ofConstant constant) := by
  induction before generalizing taken with
  | nil =>
      rw [List.nil_append, checkConstants]
      rcases reason with shape | present | none
      · simp [Error.ofConstant, shape]
      · by_cases shape : Text.isIdentifier constant <;> simp [Error.ofConstant, shape, present]
      · cases none
  | cons first before ih =>
      have accepted : Text.isIdentifier first = true ∧ first ∉ taken ∧
          checkConstants (first :: taken) before = .ok () := by
        rw [checkConstants] at passed
        split at passed
        · cases passed
        · split at passed
          · cases passed
          · rename_i shape fresh
            exact ⟨by simpa using shape, by simpa using fresh, passed⟩
      rcases accepted with ⟨shape, fresh, passed⟩
      rw [List.cons_append, checkConstants]
      simp only [shape, Bool.not_true, Bool.false_eq_true, if_false, List.contains_eq_mem, fresh,
        decide_false]
      refine ih passed ?_
      simp only [List.mem_cons] at reason ⊢
      tauto

/-- The least offence is what the check of constants reports. -/
theorem checkConstants_of_firstOffence
    {constants : List String} {position : Nat} {constant : String}
    (first : FirstOffence constants position constant) :
    checkConstants Module.reservedBindings constants = .error (.ofConstant constant) := by
  rcases first with ⟨⟨listed, reason⟩, least⟩
  have passed : checkConstants Module.reservedBindings (constants.take position) = .ok () := by
    rw [checkConstants_eq_ok_iff_offends]
    intro earlier other offends
    rcases offends.take with ⟨before, offending⟩
    exact least earlier other before offending
  rcases List.getElem?_eq_some_iff.mp listed with ⟨inside, here⟩
  have split : constants =
      constants.take position ++ constant :: constants.drop (position + 1) := by
    rw [← here, List.getElem_cons_drop, List.take_append_drop]
  rw [split]
  refine checkConstants_append_cons passed ?_
  rcases reason with shape | reserved | ⟨earlier, before, again⟩
  · exact .inl shape
  · exact .inr (.inl reserved)
  · exact .inr (.inr (List.mem_of_getElem? ((List.getElem?_take_of_lt before).trans again)))

/-- A fault of the constants comes before those of the fields. -/
theorem check_of_constants_error
    {config : Config} {error : Error}
    (failure : checkConstants Module.reservedBindings config.constants = .error error) :
    check config = .error error := by
  rw [check, failure]

/-- Once the constants have passed, the fields decide. -/
theorem check_of_constants_ok
    {config : Config}
    (passed : checkConstants Module.reservedBindings config.constants = .ok ()) :
    check config = checkFields config.collections := by
  rw [check, passed]

/-- The check of the constants passes when all of them can be declared. -/
theorem validConstants_iff {config : Config} :
    checkConstants Module.reservedBindings config.constants = .ok () ↔ config.ValidConstants := by
  rw [checkConstants_eq_ok_iff]
  exact ⟨fun ⟨identifiers, free, distinct⟩ => ⟨identifiers, free, distinct⟩,
    fun ⟨identifiers, free, distinct⟩ => ⟨identifiers, free, distinct⟩⟩

/-! ## The whole check -/

/-- A configuration is valid when its constants and the names in each of its records are. -/
theorem check_eq_ok_iff {config : Config} :
    check config = .ok () ↔
      config.ValidConstants ∧
        ∀ context record, config.HasRecord context record → (record.map Widget.name).Nodup := by
  rw [← validConstants_iff, ← checkFields_eq_ok_iff]
  constructor
  · intro valid
    have passed : checkConstants Module.reservedBindings config.constants = .ok () :=
      checkConstants_eq_ok_iff.mpr (constants_of_check valid)
    exact ⟨passed, check_of_constants_ok passed ▸ valid⟩
  · rintro ⟨passed, distinct⟩
    rw [check_of_constants_ok passed, distinct]

/-- How the constants of a configuration take part in its validity. -/
structure ConstantsFirst (config : Config) : Prop where
  /-- An error about a constant says that some position offends. -/
  reported_iff :
    (∃ constant, check config = .error (.invalidIdentifier constant) ∨
        check config = .error (.duplicateConstant constant)) ↔
      ∃ position constant, Offends config.constants position constant
  /-- The least one is reported, whatever the fields of the collections are. -/
  first : ∀ {position constant},
    FirstOffence config.constants position constant →
      ∀ other : Config, other.constants = config.constants →
        check other = .error (.ofConstant constant)
  fields : (∀ position constant, ¬ Offends config.constants position constant) →
    check config = checkFields config.collections
  valid_iff : check config = .ok () ↔
    config.ValidConstants ∧
      ∀ context record, config.HasRecord context record → (record.map Widget.name).Nodup

/--
The constants of every configuration are checked exactly, completely and before all
fields, and the least position that offends is the one that is reported.
-/
theorem constantsFirst (config : Config) : ConstantsFirst config where
  reported_iff := by
    constructor
    · rintro ⟨constant, reported⟩
      by_contra none
      simp only [not_exists] at none
      have passed := checkConstants_eq_ok_iff_offends.mpr none
      rw [check_of_constants_ok passed, checkFields_eq] at reported
      rcases reported with reported | reported <;>
        · rcases Visit.exists_of_firstRepetition_error reported with ⟨_, _, _, impossible⟩
          cases impossible
    · rintro ⟨position, constant, offends⟩
      rcases offends.exists_first with ⟨first, culprit, least⟩
      refine ⟨culprit, ?_⟩
      rw [check_of_constants_error (checkConstants_of_firstOffence least)]
      rcases Error.ofConstant_cases culprit with kind | kind
      · exact .inl (congrArg Except.error kind)
      · exact .inr (congrArg Except.error kind)
  first := by
    intro position constant least other same
    apply check_of_constants_error
    rw [same]
    exact checkConstants_of_firstOffence least
  fields := fun none => check_of_constants_ok (checkConstants_eq_ok_iff_offends.mpr none)
  valid_iff := check_eq_ok_iff

/-- Two faults in the constants and one in the fields: the least position is reported. -/
example :
    check
      ⟨[ ⟨"posts", "posts", [.leaf "a" true (.scalar .string), .leaf "a" true (.scalar .string)],
          none⟩,
        ⟨"z", "z", [], none⟩, ⟨"2024", "old", [], none⟩ ], []⟩ =
      .error (.duplicateConstant "z") := by
  decide +kernel

end Validity

end ContentSchema
