import Mathlib
import ContentSchema.Proofs.ModuleLines

/-!
# The two layouts of a record

The fields of a collection are written over several lines, those of a list in one.  Both
layouts hold the same entries: since no entry of a converted field has a line feed, the
lines of the first are those of its fields, and the second can be read off it.  So it
does not matter to a record in which of them it is written.
-/

namespace ContentSchema

open Text (OneLine)

namespace Expression

/-! ## From one layout to the other -/

/-- A line without so many characters at its start and without its last one. -/
def unwrapped (indent : Nat) (line : List Char) : String :=
  String.ofList (line.drop indent).dropLast

/--
A record in one line, read off its several lines: what stands in those between the first
and the last one, without the blanks and the comma.
-/
def inlined (indent : Nat) (block : String) : String :=
  let between := (block.toList.splitOn '\n').tail.dropLast
  "z.object(\x7b " ++ String.intercalate ", " (between.map (unwrapped indent)) ++ " \x7d)"

theorem toList_indentation (indent : Nat) :
    (indentation indent).toList = List.replicate indent ' ' :=
  String.toList_ofList

theorem oneLine_indentation (indent : Nat) :
    OneLine (indentation indent) := by
  rw [OneLine, toList_indentation]
  intro member
  cases List.eq_of_mem_replicate member

theorem unwrapped_line (indent : Nat) (entry : String) :
    unwrapped indent (indentation indent ++ entry ++ ",").toList = entry := by
  have blanks : (indentation indent).toList.length = indent := by
    rw [toList_indentation, List.length_replicate]
  have comma : ",".toList = [','] := rfl
  rw [unwrapped, String.toList_append, String.toList_append, List.append_assoc,
    List.drop_left' blanks, comma, List.dropLast_concat, String.ofList_toList]

/-- The lines of a record, of which every entry has one. -/
theorem splitOn_blockRecord
    {entries : List String}
    (filled : entries ≠ [])
    (each : ∀ entry ∈ entries, OneLine entry)
    (indent : Nat) :
    (blockRecord indent entries).toList.splitOn '\n' =
      "z.object(\x7b".toList
        :: (entries.map fun entry => (indentation indent ++ entry ++ ",").toList)
        ++ [(indentation (indent - 4) ++ "\x7d)").toList] := by
  have clean : ∀ line ∈
      "z.object(\x7b" :: entries.map fun entry => indentation indent ++ entry ++ ",",
        OneLine line := by
    intro line member
    rcases List.mem_cons.mp member with rfl | inside
    · decide
    · rcases List.mem_map.mp inside with ⟨entry, held, rfl⟩
      simp only [Text.oneLine_append]
      exact ⟨⟨oneLine_indentation indent, each entry held⟩, by decide⟩
  have last : OneLine (indentation (indent - 4) ++ "\x7d)") :=
    Text.oneLine_append.mpr ⟨oneLine_indentation _, by decide⟩
  rw [blockRecord_eq indent filled, Text.splitOn_ofLines_append clean last]
  simp only [List.map_append, List.map_cons, List.map_map, List.map_nil, Function.comp_def]

/-- The record in one line is read off its layout as a block. -/
theorem inlined_blockRecord
    {entries : List String}
    (filled : entries ≠ [])
    (each : ∀ entry ∈ entries, OneLine entry)
    (indent : Nat) :
    inlined indent (blockRecord indent entries) = inlineRecord entries := by
  have unwrap : (entries.map fun entry => (indentation indent ++ entry ++ ",").toList).map
      (unwrapped indent) = entries := by
    rw [List.map_map]
    exact (List.map_congr_left fun entry _ => unwrapped_line indent entry).trans
      (List.map_id entries)
  rw [inlined, splitOn_blockRecord filled each, List.cons_append, List.tail_cons,
    List.dropLast_concat, unwrap, inlineRecord, if_neg (by simpa using filled)]

end Expression

namespace Widget

open Expression

/-- How the two layouts of the record of some fields go together. -/
structure LayoutsAgree (widgets : List Widget) (indent : Nat) : Prop where
  /-- Without fields the layouts do not differ. -/
  empty : widgets = [] →
    blockRecord indent (entries widgets) = inlineRecord (entries widgets)
  /-- The lines are two more than the fields, each of which has one for its entry. -/
  lines : widgets ≠ [] →
    (blockRecord indent (entries widgets)).toList.splitOn '\n' =
      "z.object(\x7b".toList
        :: (widgets.map fun widget =>
          List.replicate indent ' ' ++ widget.entry.toList ++ [','])
        ++ [List.replicate (indent - 4) ' ' ++ ['\x7d', ')']]
  count : widgets ≠ [] →
    ((blockRecord indent (entries widgets)).toList.splitOn '\n').length = widgets.length + 2
  /-- The layout in one line is read off the one over several lines. -/
  inline : widgets ≠ [] →
    inlined indent (blockRecord indent (entries widgets)) = inlineRecord (entries widgets)

/-- Both layouts of a record say the same when no entry breaks its line. -/
theorem layoutsAgree_of_canonical
    {widgets : List Widget}
    (canonical : ∀ widget ∈ widgets, widget.Canonical)
    (indent : Nat) :
    LayoutsAgree widgets indent := by
  have each : ∀ line ∈ widgets.map entry, OneLine line := by
    intro line member
    rcases List.mem_map.mp member with ⟨widget, inside, rfl⟩
    exact (canonical widget inside).oneLine_entry
  have lines : widgets ≠ [] →
      (blockRecord indent (entries widgets)).toList.splitOn '\n' =
        "z.object(\x7b".toList
          :: (widgets.map fun widget =>
            List.replicate indent ' ' ++ widget.entry.toList ++ [','])
          ++ [List.replicate (indent - 4) ' ' ++ ['\x7d', ')']] := by
    intro filled
    rw [entries_eq_map, splitOn_blockRecord (by simpa using filled) each]
    simp only [String.toList_append, toList_indentation, List.map_map]
    rfl
  refine ⟨?_, lines, ?_, ?_⟩
  · rintro rfl
    rw [entries_eq_map]
    rfl
  · intro filled
    rw [lines filled]
    simp
  · intro filled
    rw [entries_eq_map]
    exact inlined_blockRecord (by simpa using filled) each indent

/-- Converted fields have one record, whichever layout it is written in. -/
theorem layoutsAgree_of_converted
    {widgets : List Widget}
    (converted : ∀ widget ∈ widgets, ∃ descriptor, Descriptor.widget descriptor = .ok widget)
    (indent : Nat) :
    LayoutsAgree widgets indent := by
  apply layoutsAgree_of_canonical
  intro widget inside
  rcases converted widget inside with ⟨descriptor, success⟩
  exact Descriptor.canonical_of_widgetWithin success

/-- Fields with a line feed in a name and in an option, and less room than the end takes. -/
theorem layoutsAgree_lineFeeds :
    Descriptor.widget Module.lineFeedList =
        .ok (.ofItems "b\n" [.ofLeaf "kind" true (.selectOf ["c\n\x7d);", "d"])]) ∧
      LayoutsAgree [.ofItems "b\n" [.ofLeaf "kind" true (.selectOf ["c\n\x7d);", "d"])]] 2 := by
  refine ⟨Module.widget_lineFeedList, layoutsAgree_of_converted ?_ 2⟩
  intro widget inside
  rw [List.mem_singleton.mp inside]
  exact ⟨Module.lineFeedList, Module.widget_lineFeedList⟩

end Widget

end ContentSchema
