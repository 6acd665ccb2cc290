/-!
# URIs

Tags of nodes are URIs.  A URI may write its characters by their octets, and
nothing makes sure that those octets are a text; so a URI is a list of octets.  A
nought among them ends it.
-/

namespace ContentSchema.Yaml

/-- A URI, or a part of one. -/
structure Uri where
  octets : List UInt8
  deriving DecidableEq, Repr

namespace Uri

/-- The octet of an ASCII character. -/
def octetOf (character : Char) : UInt8 :=
  UInt8.ofNat character.toNat

/-- The URI that octets write, which a nought ends. -/
def ofOctets (octets : List UInt8) : Uri :=
  ⟨octets.takeWhile (· != 0)⟩

/-- The URI of ASCII characters. -/
def ofAscii (characters : String) : Uri :=
  ⟨characters.toList.map octetOf⟩

/-- A URI that goes on with another one. -/
def append (lead rest : Uri) : Uri :=
  ⟨lead.octets ++ rest.octets⟩

/-- A URI without any octet. -/
def isEmpty (uri : Uri) : Bool :=
  uri.octets.isEmpty

/-- A URI starts with that ASCII character. -/
def startsWith (uri : Uri) (character : Char) : Bool :=
  uri.octets.head? == some (octetOf character)

/-- The octets of a URI are those of a text. -/
def isText (uri : Uri) : Bool :=
  (String.fromUTF8? ⟨uri.octets.toArray⟩).isSome

end Uri

end ContentSchema.Yaml
