/-!
# Header fields

An ordered collection of name and value pairs. Two names are the same when they agree up to ASCII case;
the collection keeps the spelling and the order in which fields came in. `append` adds a field at the end,
`set` leaves exactly one field of the given name, where the first one stood.
-/

set_option autoImplicit false

namespace FramedHttp

/-- What two spellings of one field name share: the name in ASCII lower case. -/
def foldName (name : String) : List Char :=
  name.toList.map Char.toLower

def sameName (a b : String) : Bool :=
  foldName a == foldName b

structure Field where
  name : String
  value : String
  deriving DecidableEq, Repr

def Field.isNamed (f : Field) (name : String) : Bool :=
  sameName f.name name

theorem sameName_iff {a b : String} : sameName a b = true ↔ foldName a = foldName b := by
  simp [sameName]

@[simp] theorem sameName_refl (a : String) : sameName a a = true := by
  simp [sameName]

theorem sameName_comm (a b : String) : sameName a b = sameName b a := by
  rw [Bool.eq_iff_iff, sameName_iff, sameName_iff, eq_comm]

/-- A field that has a name has exactly the names that are the same. -/
theorem Field.isNamed_congr {f : Field} {a b : String} (h : f.isNamed a = true) :
    sameName a b = f.isNamed b := by
  rw [isNamed, sameName_iff] at h
  rw [isNamed, Bool.eq_iff_iff, sameName_iff, sameName_iff, h]

structure Headers where
  fields : List Field := []
  deriving DecidableEq, Repr

namespace Headers

def empty : Headers := {}

def ofPairs (pairs : List (String × String)) : Headers :=
  ⟨pairs.map fun p => ⟨p.1, p.2⟩⟩

def append (h : Headers) (name value : String) : Headers :=
  ⟨h.fields ++ [⟨name, value⟩]⟩

/-- The first field of the name takes the value and keeps its place and spelling; later ones go. -/
def setIn (name value : String) : List Field → List Field
  | [] => [⟨name, value⟩]
  | f :: rest =>
    if f.isNamed name then ⟨f.name, value⟩ :: rest.filter (fun g => !g.isNamed name)
    else f :: setIn name value rest

def set (h : Headers) (name value : String) : Headers :=
  ⟨setIn name value h.fields⟩

/-- The value of the first field of the name. -/
def get? (h : Headers) (name : String) : Option String :=
  (h.fields.find? (·.isNamed name)).map Field.value

def contains (h : Headers) (name : String) : Bool :=
  h.fields.any (·.isNamed name)

def count (h : Headers) (name : String) : Nat :=
  h.fields.countP (·.isNamed name)

def erase (h : Headers) (name : String) : Headers :=
  ⟨h.fields.filter fun f => !f.isNamed name⟩

def size (h : Headers) : Nat :=
  h.fields.length

def isEmpty (h : Headers) : Bool :=
  h.fields.isEmpty

@[simp] theorem fields_append (h : Headers) (name value : String) :
    (h.append name value).fields = h.fields ++ [⟨name, value⟩] := rfl

@[simp] theorem fields_erase (h : Headers) (name : String) :
    (h.erase name).fields = h.fields.filter fun f => !f.isNamed name := rfl

theorem contains_iff {h : Headers} {name : String} :
    h.contains name = true ↔ ∃ f ∈ h.fields, f.isNamed name = true := by
  simp [contains]

theorem get?_cons (f : Field) (rest : List Field) (name : String) :
    get? ⟨f :: rest⟩ name = if f.isNamed name then some f.value else get? ⟨rest⟩ name := by
  cases h : f.isNamed name <;> simp [get?, h]

/-- Fields in front come first. -/
theorem get?_append (fields rest : List Field) (name : String) :
    get? ⟨fields ++ rest⟩ name = (get? ⟨fields⟩ name).or (get? ⟨rest⟩ name) := by
  simp [get?, List.find?_append, Option.map_or]

/-- One line per field. -/
def text (h : Headers) : String :=
  String.join (h.fields.map fun f => f.name ++ ": " ++ f.value ++ "\n")

end Headers

end FramedHttp
