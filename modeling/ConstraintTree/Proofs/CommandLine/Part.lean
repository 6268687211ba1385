import ConstraintTree.CommandLine.Arguments

namespace ConstraintTree.CommandLine

/-- What arguments say, one by one. -/
inductive Part where
  | debug
  | schema (name : String)
  | unqualified
  | bang
  | strict
  | file (path : String)
  deriving DecidableEq

namespace Part

/-- The option that a part is. A file is none. -/
def choice? : Part → Option Choice
  | .debug => some (.flag .debug)
  | .schema _ => some (.parameter .schema)
  | .unqualified => some (.flag .unqualified)
  | .bang => some (.flag .bang)
  | .strict => some (.flag .strict)
  | .file _ => none

def schema? : Part → Option String
  | .schema name => some name
  | _ => none

def file? : Part → Option String
  | .file path => some path
  | _ => none

/-- Flags are for every verb. -/
def isFlag : Part → Bool
  | .strict | .file _ => false
  | _ => true

/-- Whether a part may stand behind a verb, or else before any. -/
def fits (side : Option Verb) : Part → Bool
  | .strict => side = some .render
  | .file _ => side.any Verb.takesOperand
  | _ => true

theorem mem_choices {parts : List Part} {part : Part} (choice : part.choice? = some (.flag flag)) :
    some (.flag flag) ∈ parts.map choice? ↔ part ∈ parts := by
  have alone (other : Part) (same : other.choice? = some (.flag flag)) : other = part := by
    cases part <;> cases choice <;> cases other <;> cases same <;> rfl
  rw [List.mem_map]
  constructor
  · rintro ⟨other, member, same⟩
    exact alone other same ▸ member
  · exact fun member => ⟨part, member, choice⟩

private theorem isSome_getLast?_schema {parts : List Part} :
    (parts.filterMap schema?).getLast?.isSome = true ↔
      some (.parameter .schema) ∈ parts.map choice? := by
  have given (part : Part) : part.schema?.isSome = true ↔
      part.choice? = some (.parameter .schema) := by
    cases part <;> simp [schema?, choice?]
  simp [← given]

private theorem isSome_getLast?_file {parts : List Part} :
    (parts.filterMap file?).getLast?.isSome = true ↔ none ∈ parts.map choice? := by
  have given (part : Part) : part.file?.isSome = true ↔ part.choice? = none := by
    cases part <;> simp [file?, choice?]
  simp [← given]

end Part

/-- Words do not look like options. -/
def IsWord (text : String) : Prop := text = "-" ∨ text.toList.head? ≠ some '-'

/-- The ways in which a part is spelled. -/
inductive Spelled : Part → List String → Prop where
  | debug : Spelled .debug ["--debug"]
  | letter : Spelled .debug ["-d"]
  | attached (name : String) : Spelled (.schema name) ["--sdo-schema=" ++ name]
  | apart (word : IsWord name) : Spelled (.schema name) ["--sdo-schema", name]
  | unqualified : Spelled .unqualified ["--no-sdo-schema"]
  | bang : Spelled .bang ["--bang-not-equal"]
  | strict : Spelled .strict ["--strict"]
  | file (word : IsWord path) (named : path ≠ "") : Spelled (.file path) [path]

theorem Spelled.named (spelled : Spelled part tokens) : part ≠ .file "" := by
  cases spelled with
  | file _ named => exact fun empty => named (Part.file.inj empty)
  | _ => nofun

/-- Parts in a row. -/
inductive Written (side : Option Verb) : List Part → List String → Prop where
  | nothing : Written side [] []
  | more (spelled : Spelled part tokens) (fits : part.fits side = true)
      (further : Written side parts rest) : Written side (part :: parts) (tokens ++ rest)

/-! What one side of the verb gives, as the parts that were read on it. -/

structure Given.Says (given : Given) (parts : List Part) : Prop where
  flags : ∀ flag, flag ∈ given.flags ↔ some (.flag flag) ∈ parts.map Part.choice?
  schema : given.schema? = (parts.filterMap Part.schema?).getLast?
  operand : given.operand = (parts.filterMap Part.file?).getLast?

namespace Given

theorem says_nothing : ({} : Given).Says [] where
  flags := by simp
  schema := rfl
  operand := rfl

def take (given : Given) : Part → Except Interruption Given
  | .debug => given.raise .debug
  | .schema name => given.set .schema name
  | .unqualified => given.raise .unqualified
  | .bang => given.raise .bang
  | .strict => given.raise .strict
  | .file path => given.place .check path

/-- Every verb that works on a file takes it in the same way. -/
theorem place_eq_take (operative : verb.takesOperand = true) (given : Given) (path : String) :
    given.place verb path = given.take (.file path) := by
  rw [take, place, place, operative]
  rfl

end Given

/-- What comes of one more part: it is refused if there is one of its kind, and else taken in. -/
inductive Takes (parts : List Part) (part : Part) : Except Interruption Given → Prop where
  | again (repeated : part.choice? ∈ parts.map Part.choice?) : Takes parts part (.error .misuse)
  | anew (new : part.choice? ∉ parts.map Part.choice?) (told : taken.Says (parts ++ [part])) :
      Takes parts part (.ok taken)

namespace Given.Says

variable {given : Given} {parts : List Part}

theorem raise (told : given.Says parts) (flag : Flag) (choice : part.choice? = some (.flag flag))
    (plain : flag ≠ .help ∧ flag ≠ .version) : Takes parts part (given.raise flag) := by
  have raised : given.raise flag = if flag ∈ given.flags then .error .misuse
      else .ok { given with flags := flag :: given.flags } := by
    cases flag <;> first | rfl | exact absurd rfl plain.1 | exact absurd rfl plain.2
  have neither : part.schema? = none ∧ part.file? = none := by
    cases part <;> simp_all [Part.choice?, Part.schema?, Part.file?]
  have known : flag ∈ given.flags ↔ part.choice? ∈ parts.map Part.choice? := by
    rw [choice, told.flags]
  rw [raised]
  split
  case isTrue repeated => exact .again (known.mp repeated)
  case isFalse new =>
    refine .anew (mt known.mpr new) ⟨fun other => ?_, ?_, ?_⟩
    · simp [choice, told.flags, or_comm, eq_comm]
    · simpa [schema?, List.filterMap_append, neither.1] using told.schema
    · simpa [List.filterMap_append, neither.2] using told.operand

theorem set (told : given.Says parts) (name : String) :
    Takes parts (.schema name) (given.set .schema name) := by
  have known : (given.values.lookup .schema).isSome = true ↔
      some (.parameter .schema) ∈ parts.map Part.choice? := by
    rw [← schema?, told.schema]
    exact Part.isSome_getLast?_schema
  rw [Given.set]
  split
  case isTrue repeated => exact .again (known.mp repeated)
  case isFalse new =>
    refine .anew (mt known.mpr new) ⟨fun flag => ?_, ?_, ?_⟩
    · simp [told.flags, Part.choice?]
    · simp [schema?, List.filterMap_append, Part.schema?]
    · simpa [List.filterMap_append, Part.file?] using told.operand

theorem place (told : given.Says parts) (operative : verb.takesOperand = true) (named : path ≠ "") :
    Takes parts (.file path) (given.place verb path) := by
  have known : given.operand.isSome = true ↔ none ∈ parts.map Part.choice? := by
    rw [told.operand]
    exact Part.isSome_getLast?_file
  simp only [Given.place, operative, Bool.not_true, Bool.false_or, Bool.or_eq_true,
    String.isEmpty_iff, named, or_false]
  split
  case isTrue repeated => exact .again (known.mp repeated)
  case isFalse new =>
    refine .anew (mt known.mpr new) ⟨fun flag => ?_, ?_, ?_⟩
    · simp [told.flags, Part.choice?]
    · simpa [schema?, List.filterMap_append, Part.schema?] using told.schema
    · simp [List.filterMap_append, Part.file?]

/-- Taking a part in says it, unless it has been said. -/
theorem take (told : given.Says parts) (named : part ≠ .file "") :
    Takes parts part (given.take part) := by
  cases part with
  | debug => exact told.raise .debug rfl (by decide)
  | unqualified => exact told.raise .unqualified rfl (by decide)
  | bang => exact told.raise .bang rfl (by decide)
  | strict => exact told.raise .strict rfl (by decide)
  | schema name => exact told.set name
  | file path => exact told.place rfl fun empty => named (congrArg Part.file empty)

theorem take_new (told : given.Says parts) (named : part ≠ .file "")
    (new : part.choice? ∉ parts.map Part.choice?) :
    ∃ taken, given.take part = .ok taken ∧ taken.Says (parts ++ [part]) := by
  have takes := told.take named
  generalize given.take part = result at takes
  cases takes with
  | again repeated => exact absurd repeated new
  | anew _ told => exact ⟨_, rfl, told⟩

theorem of_take (told : given.Says parts) (named : part ≠ .file "")
    (once : (parts.map Part.choice?).Nodup) (taken : given.take part = .ok after) :
    after.Says (parts ++ [part]) ∧ ((parts ++ [part]).map Part.choice?).Nodup := by
  have takes := told.take named
  rw [taken] at takes
  cases takes with
  | anew new told =>
    refine ⟨told, ?_⟩
    rw [List.map_append, List.nodup_append]
    refine ⟨once, by simp, fun choice member other last same => new ?_⟩
    obtain rfl := List.mem_singleton.mp last
    exact same ▸ member

end Given.Says

end ConstraintTree.CommandLine
