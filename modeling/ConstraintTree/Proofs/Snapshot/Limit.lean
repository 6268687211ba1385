import ConstraintTree.Proofs.Snapshot.Lockstep

namespace ConstraintTree

/-- A record of the child fields that a reading opens. -/
structure NestingRecord where
  opened : Nat := 0
  /-- How many fields were open whenever another one was entered, the last one first. -/
  entries : List Nat := []

namespace NestingRecord

/-- Fields are entered one inside another: no level is reached but from the one below it. -/
def Gapless (record : NestingRecord) : Prop :=
  ∀ level ∈ record.opened :: record.entries, ∀ below < level, below ∈ record.entries

end NestingRecord

/-- Refuses nothing, and records how many fields were open at each entry. -/
def Nesting.recorded : Nesting NestingRecord where
  enter record := .ok { opened := record.opened + 1, entries := record.opened :: record.entries }
  leave record := { record with opened := record.opened - 1 }

namespace Reader

/-- Books that go along as long as neither refuses. Where the first refuses, the second goes on, and
never loses what that has told of it. -/
structure Shadows (outer : Nesting σ) (inner : Nesting τ) (Together : σ → τ → Prop)
    (limit : Nat) (Past : τ → Prop) : Prop where
  enter : ∀ opened record, Together opened record → ∃ after, inner.enter record = .ok after ∧
    ((∃ entered, outer.enter opened = .ok entered ∧ Together entered after) ∨
      outer.enter opened = .error limit ∧ Past after)
  leave : ∀ opened record, Together opened record → Together (outer.leave opened) (inner.leave record)
  enterPast : ∀ record, Past record → ∃ after, inner.enter record = .ok after ∧ Past after
  leavePast : ∀ record, Past record → Past (inner.leave record)

/-- Runs over the same bytes, of which the first alone may stop for its nesting. -/
def Pairing.overSameBytes (Together : σ → τ → Prop) (limit : Nat) (Past : τ → Prop) :
    Pairing σ τ where
  Abreast before before' := before.rest = before'.rest ∧ Together before.nesting before'.nesting
  Shared fault := ∀ limit, fault ≠ .nestedTooDeep limit
  Parted fault before' := fault = .nestedTooDeep limit ∧ Past before'.nesting

/-- How two decodings of the same bytes may end, and with which books. -/
inductive Endings (Together : σ → τ → Prop) (limit : Nat) (Past : τ → Prop) :
    Except TreeError Snapshot × σ → Except TreeError Snapshot × τ → Prop where
  | alike (verdict : Except TreeError Snapshot)
      (own : ∀ limit, verdict ≠ .error (.malformed (.nestedTooDeep limit)))
      (together : Together opened record) : Endings Together limit Past (verdict, opened) (verdict, record)
  | refused (verdict : Except TreeError Snapshot) (past : Past record) :
      Endings Together limit Past (.error (.malformed (.nestedTooDeep limit)), opened) (verdict, record)

namespace Shadows

variable {outer : Nesting σ} {inner : Nesting τ} {Together : σ → τ → Prop} {limit : Nat}
  {Past : τ → Prop}

theorem take (Together : σ → τ → Prop) (limit : Nat) (Past : τ → Prop) (count : Nat)
    (missing : DecodeError) (atEnd : missing.isEndOfInput) :
    (Pairing.overSameBytes Together limit Past).Runs (Reader.take count missing)
      (Reader.take count missing) := by
  constructor
  · rintro before before' ⟨same, together⟩
    have own (limit : Nat) : missing ≠ .nestedTooDeep limit := by
      rintro rfl
      cases atEnd
    simp only [Reader.take, same]
    cases Bytes.split? count before'.rest with
    | none => exact .fault own ⟨same, together⟩
    | some parts => exact .value _ ⟨rfl, together⟩
  · rintro fault before' parted
    simp only [Reader.take]
    cases Bytes.split? count before'.rest with
    | none => exact parted
    | some parts => exact parted

theorem field (shadows : Shadows outer inner Together limit Past) {first : Reader σ α}
    {second : Reader τ α} (runs : (Pairing.overSameBytes Together limit Past).Runs first second) :
    (Pairing.overSameBytes Together limit Past).Runs (Reader.field outer first)
      (Reader.field inner second) := by
  constructor
  · rintro before before' ⟨same, together⟩
    obtain ⟨after, opens, fate⟩ := shadows.enter _ _ together
    rcases fate with ⟨entered, allowed, inside⟩ | ⟨refused, past⟩
    · have here := runs.outcome { before with nesting := entered }
        { before' with nesting := after } ⟨same, inside⟩
      simp only [Reader.field, allowed, opens]
      cases left : first { before with nesting := entered } <;>
        cases right : second { before' with nesting := after } <;> rw [left, right] at here
      · cases here with
        | value _ abreast => exact .value _ ⟨abreast.1, shadows.leave _ _ abreast.2⟩
      · cases here
      · cases here with
        | alone _ parted => exact .alone _ ⟨parted.1, shadows.leavePast _ parted.2⟩
      · cases here with
        | fault shared abreast => exact .fault shared ⟨abreast.1, shadows.leave _ _ abreast.2⟩
        | alone _ parted => exact .alone _ ⟨parted.1, shadows.leavePast _ parted.2⟩
    -- Whatever the second run finds in the field, its books stay past the limit.
    · have beyond := runs.keeps (.nestedTooDeep limit) { before' with nesting := after } ⟨rfl, past⟩
      simp only [Reader.field, refused, opens]
      cases right : second { before' with nesting := after } <;> rw [right] at beyond
      · exact .alone _ ⟨rfl, shadows.leavePast _ beyond.2⟩
      · exact .alone _ ⟨rfl, shadows.leavePast _ beyond.2⟩
  · rintro fault before' ⟨rfl, past⟩
    obtain ⟨after, opens, inside⟩ := shadows.enterPast _ past
    have beyond := runs.keeps (.nestedTooDeep limit) { before' with nesting := after } ⟨rfl, inside⟩
    simp only [Reader.field, opens]
    cases right : second { before' with nesting := after } <;> rw [right] at beyond
    · exact ⟨rfl, shadows.leavePast _ beyond.2⟩
    · exact ⟨rfl, shadows.leavePast _ beyond.2⟩

theorem sound (shadows : Shadows outer inner Together limit Past) :
    (Pairing.overSameBytes Together limit Past).Sound outer inner where
  shared _ own := own
  take := take Together limit Past
  field := shadows.field

theorem version (Together : σ → τ → Prop) :
    (Pairing.overSameBytes Together 0 fun _ => False).Runs Snapshot.readVersion
      Snapshot.readVersion :=
  ((take Together 0 _ 4 .endOfInput rfl).bind fun _ => .pure _).bind fun _ => .pure _

/-- Decoding of the same bytes ends alike, unless the first books stop it for its nesting. -/
theorem decodeFrom (shadows : Shadows outer inner Together limit Past) (bytes : Bytes)
    (together : Together opened record) :
    Endings Together limit Past (Snapshot.decodeFrom outer opened bytes)
      (Snapshot.decodeFrom inner record bytes) := by
  have versions := (version Together).outcome { rest := bytes, nesting := opened }
    { rest := bytes, nesting := record } ⟨rfl, together⟩
  have enough : (Pairing.overSameBytes Together limit Past).Suffices (bytes.length / 4)
      (bytes.length / 4) := .inl rfl
  have wholes := (shadows.sound.snapshot enough).outcome
    { rest := bytes, nesting := opened } { rest := bytes, nesting := record } ⟨rfl, together⟩
  have malformed {fault : DecodeError} (own : ∀ limit, fault ≠ .nestedTooDeep limit) (limit : Nat) :
      (.error (.malformed fault) : Except TreeError Snapshot) ≠
        .error (.malformed (.nestedTooDeep limit)) := by
    simpa using own limit
  simp only [Snapshot.decodeFrom]
  generalize Snapshot.readVersion { rest := bytes, nesting := opened } = left at versions ⊢
  generalize Snapshot.readVersion { rest := bytes, nesting := record } = right at versions ⊢
  generalize Snapshot.read outer _ { rest := bytes, nesting := opened } = left' at wholes ⊢
  generalize Snapshot.read inner _ { rest := bytes, nesting := record } = right' at wholes ⊢
  cases versions with
  | alone _ parted => exact parted.2.elim
  | fault own abreast => exact .alike _ (malformed own) abreast.2
  | value found abreast =>
    dsimp only
    by_cases foreign : found ≠ Snapshot.version
    · rw [if_pos foreign, if_pos foreign]
      exact .alike _ (by simp) abreast.2
    · rw [if_neg foreign, if_neg foreign]
      cases wholes with
      | fault own abreast => exact .alike _ (malformed own) abreast.2
      | value snapshot abreast =>
        dsimp only
        cases snapshot.items.isEmpty with
        | true => exact .alike _ (by simp) abreast.2
        | false => exact .alike _ (by simp) abreast.2
      | alone _ parted =>
        obtain ⟨rfl, past⟩ := parted
        cases right' with
        | error fault after => exact .refused _ past
        | ok snapshot after =>
          dsimp only
          cases snapshot.items.isEmpty with
          | true => exact .refused _ past
          | false => exact .refused _ past

end Shadows

/-- A limit goes along with plain reading until that enters a field while as many are open. -/
theorem shadows_limited (limit : Nat) :
    Shadows (Nesting.limited limit) Nesting.recorded
      (fun opened record => opened = record.opened ∧ opened ≤ limit ∧ limit ∉ record.entries) limit
      (fun record => limit ∈ record.entries) where
  enter := by
    rintro opened record ⟨rfl, room, unseen⟩
    refine ⟨_, rfl, ?_⟩
    by_cases below : record.opened < limit
    · refine .inl ⟨record.opened + 1, by simp [Nesting.limited, below], rfl, below, ?_⟩
      simpa [unseen] using Nat.ne_of_gt below
    · refine .inr ⟨by simp [Nesting.limited, below], ?_⟩
      have full : limit = record.opened := by omega
      simp [full]
  leave := by
    rintro opened record ⟨rfl, room, unseen⟩
    exact ⟨rfl, by simp only [Nesting.limited]; omega, unseen⟩
  enterPast record past := ⟨_, rfl, List.mem_cons_of_mem _ past⟩
  leavePast record past := past

/-- Recording changes nothing that plain reading finds, and what it records has no gaps. -/
theorem shadows_unlimited (limit : Nat) :
    Shadows Nesting.unlimited Nesting.recorded (fun _ record => record.Gapless) limit
      (fun _ => False) where
  enter := by
    intro opened record gapless
    refine ⟨_, rfl, .inl ⟨(), rfl, ?_⟩⟩
    intro level member below less
    rcases List.mem_cons.mp member with rfl | member
    · by_cases here : below = record.opened
      · exact here ▸ List.mem_cons_self
      · exact List.mem_cons_of_mem _ (gapless _ List.mem_cons_self below (by simp at less; omega))
    · exact List.mem_cons_of_mem _ (gapless level member below less)
  leave := by
    intro opened record gapless level member below less
    rcases List.mem_cons.mp member with rfl | member
    · exact gapless _ List.mem_cons_self below (by simp [Nesting.recorded] at less; omega)
    · exact gapless level (List.mem_cons_of_mem _ member) below less
  enterPast _ past := past.elim
  leavePast _ past := past

end Reader

namespace Snapshot

/-- Decoding under another limit than the usual one. -/
def decodeWithin (limit : Nat) (bytes : Bytes) : Except TreeError Snapshot :=
  (decodeFrom (Nesting.limited limit) 0 bytes).1

def decodePlain (bytes : Bytes) : Except TreeError Snapshot := (decodeFrom Nesting.unlimited () bytes).1

/-- How many child fields were open whenever plain decoding entered another one, before it stopped. -/
def entries (bytes : Bytes) : List Nat := (decodeFrom Nesting.recorded {} bytes).2.entries

theorem recorded_eq_plain (bytes : Bytes) :
    (decodeFrom Nesting.recorded {} bytes).1 = decodePlain bytes ∧
      (decodeFrom Nesting.recorded {} bytes).2.Gapless ∧
      ∀ limit, decodePlain bytes ≠ .error (.malformed (.nestedTooDeep limit)) := by
  have empty : NestingRecord.Gapless {} := by
    intro level member below less
    have zero : level = 0 := by simpa using member
    omega
  have endings : Reader.Endings (fun _ record => record.Gapless) 0 (fun _ => False)
      (decodeFrom Nesting.unlimited () bytes) (decodeFrom Nesting.recorded {} bytes) :=
    (Reader.shadows_unlimited 0).decodeFrom bytes empty
  rw [decodePlain]
  generalize decodeFrom Nesting.unlimited () bytes = plain at endings ⊢
  generalize decodeFrom Nesting.recorded {} bytes = recorded at endings ⊢
  cases endings with
  | alike verdict own gapless => exact ⟨rfl, gapless, own⟩
  | refused verdict past => exact past.elim

/-- Where plain decoding goes past the limit, decoding within it is refused, and otherwise both are
the same. -/
theorem decodeWithin_eq (limit : Nat) (bytes : Bytes) :
    decodeWithin limit bytes =
      if limit ∈ entries bytes then .error (.malformed (.nestedTooDeep limit))
      else decodePlain bytes := by
  have endings : Reader.Endings _ limit (fun record => limit ∈ record.entries)
      (decodeFrom (Nesting.limited limit) 0 bytes) (decodeFrom Nesting.recorded {} bytes) :=
    (Reader.shadows_limited limit).decodeFrom bytes ⟨rfl, Nat.zero_le limit, by simp⟩
  rw [decodeWithin, entries, ← (recorded_eq_plain bytes).1]
  generalize decodeFrom (Nesting.limited limit) 0 bytes = within at endings ⊢
  generalize decodeFrom Nesting.recorded {} bytes = recorded at endings ⊢
  cases endings with
  | alike verdict own together => rw [if_neg together.2.2]
  | refused verdict past => rw [if_pos past]

/-- A field that is entered at some level lies in fields that were entered at all levels below. -/
theorem entries_below {bytes : Bytes} (entered : higher ∈ entries bytes) (less : limit ≤ higher) :
    limit ∈ entries bytes := by
  rcases Nat.lt_or_eq_of_le less with below | rfl
  · exact (recorded_eq_plain bytes).2.1 higher (List.mem_cons_of_mem _ entered) limit below
  · exact entered

/-- The limit on nesting only ever adds its own error, exactly where plain decoding enters a field
while as many are open as the limit allows. So a higher limit than that of decoding changes nothing
else. -/
theorem decode_limited (limit : Nat) (bytes : Bytes) :
    decode bytes = decodeWithin maxNesting bytes ∧
      (decodeFrom Nesting.recorded {} bytes).1 = decodePlain bytes ∧
      (decodeWithin limit bytes = .error (.malformed (.nestedTooDeep limit)) ↔
        limit ∈ entries bytes) ∧
      (limit ∉ entries bytes → decodeWithin limit bytes = decodePlain bytes) ∧
      ∀ higher, limit ≤ higher →
        decodeWithin limit bytes ≠ .error (.malformed (.nestedTooDeep limit)) →
        decodeWithin higher bytes = decodeWithin limit bytes := by
  obtain ⟨same, -, own⟩ := recorded_eq_plain bytes
  have refused : decodeWithin limit bytes = .error (.malformed (.nestedTooDeep limit)) ↔
      limit ∈ entries bytes := by
    rw [decodeWithin_eq]
    by_cases entered : limit ∈ entries bytes
    · simp [entered]
    · simp [entered, own limit]
  have within (limit : Nat) (unseen : limit ∉ entries bytes) :
      decodeWithin limit bytes = decodePlain bytes := by
    rw [decodeWithin_eq, if_neg unseen]
  refine ⟨rfl, same, refused, within limit, ?_⟩
  intro higher less allowed
  have unseen : limit ∉ entries bytes := fun entered => allowed (refused.mpr entered)
  have beyond : higher ∉ entries bytes := fun entered => unseen (entries_below entered less)
  rw [within higher beyond, within limit unseen]

/-- A negation inside a negation that ends where its operand should begin. -/
def truncatedNegations : Bytes :=
  [1, 0, 0, 0, 1, 0, 0, 0, 0, 0, 0, 0, 0, 0, 0, 0, 3, 0, 0, 0, 0, 0, 0, 0, 3, 0, 0, 0, 0, 0, 0, 0]

/-- A limit of one level refuses the second operand before its absence is found; any limit above finds
just that. -/
theorem decode_limited_truncated :
    decodeWithin 1 truncatedNegations = .error (.malformed (.nestedTooDeep 1)) ∧
      decodeWithin 2 truncatedNegations = .error (.malformed .endOfInput) ∧
      decodeWithin 3 truncatedNegations = .error (.malformed .endOfInput) := by
  have entered : entries truncatedNegations = [1, 0] := by decide
  have plain : decodePlain truncatedNegations = .error (.malformed .endOfInput) := rfl
  have tight := (decode_limited 1 truncatedNegations).2.2.1.mpr (by simp [entered])
  obtain ⟨-, -, -, within, above⟩ := decode_limited 2 truncatedNegations
  have loose : decodeWithin 2 truncatedNegations = .error (.malformed .endOfInput) :=
    (within (by simp [entered])).trans plain
  exact ⟨tight, loose, (above 3 (by decide) (by simp [loose])).trans loose⟩

end Snapshot
end ConstraintTree
