import CloudGrant.Json.Lexical

/-!
# Decoders

A `Decoder α` reads a value of a known shape straight from the bytes and stops at the first thing
that is wrong, in the order of the text. `decode` runs one on a whole document.

A record (`record`) is written as an object or as the list of its fields in order. In an object the
members come in any order, unknown ones are passed over and a known one may not be repeated; a field
that is absent keeps the value it has in the initial record unless it is required. In a list the
fields at the end may be absent in the same way.

## Termination

A decoder returns with what is left a proof that this is shorter (`Read`), so the loops over items
and members end on the number of bytes left. Open containers are counted down from `maxDepth`.
-/

namespace CloudGrant.Json

/-- A value that was read, and what is left: fewer than `n` bytes. -/
structure Read (n : Nat) (α : Type) where
  value : α
  rest : List UInt8
  shorter : rest.length < n

namespace Read

variable {α β : Type}

def map {n : Nat} (f : α → β) (r : Read n α) : Read n β := ⟨f r.value, r.rest, r.shorter⟩

/-- What is fewer than `m` bytes is fewer than `n`. -/
def widen {m n : Nat} (h : m ≤ n) (r : Read m α) : Read n α :=
  ⟨r.value, r.rest, Nat.lt_of_lt_of_le r.shorter h⟩

end Read

/-- Reads a value from the bytes; the number bounds the containers that may still be opened. -/
def Decoder (α : Type) : Type := Nat → (s : List UInt8) → Except Error (Read s.length α)

/-- How many containers may be open inside each other, and one more. -/
def maxDepth : Nat := 128

/-- Decode a whole document. -/
def decode {α : Type} (d : Decoder α) (s : List UInt8) : Except Error α := do
  let r ← d maxDepth s
  match skipBlanks r.rest with
  | [] => .ok r.value
  | _ :: _ => .error .trailingCharacters

namespace Decoder

variable {α β σ : Type}

def map (f : α → β) (d : Decoder α) : Decoder β := fun depth s => (d depth s).map (Read.map f)

/-! ## Shapes that do not fit -/

/-- What stands at the byte `b`, read far enough to name it. -/
def found (b : UInt8) (s : List UInt8) : Except Error Found :=
  if b = 0x6E then (word ull s).map (fun _ => .null)
  else if b = 0x74 then (word rue s).map (fun _ => .bool true)
  else if b = 0x66 then (word alse s).map (fun _ => .bool false)
  else if b = 0x2D then do
    let (n, _) ← numeral true s
    .ok (.number (← n.value))
  else if isDigit b then do
    let (n, _) ← numeral false (b :: s)
    .ok (.number (← n.value))
  else if b = 0x22 then (text s).map (fun t => .text t.1)
  else if b = 0x5B then .ok .list
  else if b = 0x7B then .ok .object
  else .error .expectedValue

/-- The error for something other than what was wanted. -/
def refuse (wanted : Wanted) (b : UInt8) (s : List UInt8) : Error :=
  match found b s with
  | .ok f => .mismatch f wanted
  | .error e => e

/-- Start at the first byte that is no blank. -/
def atByte (f : Nat → (b : UInt8) → (s : List UInt8) → Except Error (Read (b :: s).length α)) :
    Decoder α := fun depth s =>
  match h : skipBlanks s with
  | [] => .error .endOfValue
  | b :: r => (f depth b r).map (Read.widen (h ▸ length_skipBlanks_le s))

/-! ## Scalars -/

/-- A text. -/
def text : Decoder String := atByte fun _ b s =>
  if b = 0x22 then
    match h : Json.text s with
    | .error e => .error e
    | .ok (t, r) => .ok ⟨t, r, Nat.lt_succ_of_lt (length_text_lt h)⟩
  else .error (refuse .text b s)

/-- A signed integer of 64 bits. -/
def int64 : Decoder Int := atByte fun _ b s =>
  let finish (n : Numeral) (r : List UInt8) (h : r.length < (b :: s).length) :
      Except Error (Read (b :: s).length Int) := do
    match ← n.value with
    | .int v => if v < 0x8000000000000000 then .ok ⟨v, r, h⟩ else .error (.outOfInt64 v)
    | v => .error (.mismatch (.number v) .int64)
  if b = 0x2D then
    match h : numeral true s with
    | .error e => .error e
    | .ok (n, r) => finish n r (Nat.lt_succ_of_lt (length_numeral_lt h))
  else if isDigit b then
    match h : numeral false (b :: s) with
    | .error e => .error e
    | .ok (n, r) => finish n r (length_numeral_lt h)
  else .error (refuse .int64 b s)

/-- The word `null`. -/
def null : Decoder Unit := atByte fun _ b s =>
  if b = 0x6E then
    match h : word ull s with
    | .error e => .error e
    | .ok r => .ok ⟨(), r, Nat.lt_succ_of_le (length_word_le h)⟩
  else .error (refuse .null b s)

/-- A value that may be `null`. -/
def optional (d : Decoder α) : Decoder (Option α) := atByte fun depth b s =>
  if b = 0x6E then
    match h : word ull s with
    | .error e => .error e
    | .ok r => .ok ⟨none, r, Nat.lt_succ_of_le (length_word_le h)⟩
  else (d depth (b :: s)).map (Read.map some)

/-! ## Containers -/

/-- The start of the next item of an open list, or `none` with the list's end ahead. -/
def nextItem (started : Bool) (s : List UInt8) : Except Error (Option (List UInt8)) :=
  match skipBlanks s with
  | [] => .error .endOfList
  | b :: r =>
    if b = 0x5D then .ok none
    else if started then
      if b = 0x2C then
        match skipBlanks r with
        | [] => .error .endOfValue
        | c :: t => if c = 0x5D then .error .trailingComma else .ok (some (c :: t))
      else .error .expectedListComma
    else .ok (some (b :: r))

theorem length_nextItem_le {started : Bool} {s r : List UInt8}
    (h : nextItem started s = .ok (some r)) : r.length ≤ s.length := by
  unfold nextItem at h
  have hs := length_skipBlanks_le s
  split at h
  · cases h
  · next b t hb =>
    rw [hb] at hs
    split at h
    · cases h
    · split at h
      · split at h
        · have ht := length_skipBlanks_le t
          split at h
          · cases h
          · next c u hc =>
            rw [hc] at ht
            split at h
            · cases h
            · simp only [Except.ok.injEq, Option.some.injEq] at h
              rw [← h]
              simp only [List.length_cons] at *
              omega
        · cases h
      · simp only [Except.ok.injEq, Option.some.injEq] at h
        exact h ▸ hs

/-- The end of a list whose items have been read. -/
def endList (s : List UInt8) : Except Error (List UInt8) :=
  match skipBlanks s with
  | [] => .error .endOfList
  | b :: r =>
    if b = 0x5D then .ok r
    else if b = 0x2C then
      match skipBlanks r with
      | 0x5D :: _ => .error .trailingComma
      | _ => .error .trailingCharacters
    else .error .trailingCharacters

theorem length_endList_lt {s r : List UInt8} (h : endList s = .ok r) : r.length < s.length := by
  unfold endList at h
  have hs := length_skipBlanks_le s
  split at h
  · cases h
  · next b t hb =>
    rw [hb] at hs
    split at h
    · simp only [Except.ok.injEq] at h
      rw [← h]
      exact hs
    · split at h
      · split at h <;> cases h
      · cases h

/-- The items of an open list, onto `acc` in reverse. -/
def items (d : (s : List UInt8) → Except Error (Read s.length α)) {n : Nat} (started : Bool)
    (acc : List α) (s : List UInt8) (hn : s.length ≤ n) : Except Error (Read n (List α)) :=
  match hi : nextItem started s with
  | .error e => .error e
  | .ok none =>
    match h : endList s with
    | .error e => .error e
    | .ok r => .ok ⟨acc.reverse, r, Nat.lt_of_lt_of_le (length_endList_lt h) hn⟩
  | .ok (some r) =>
    match d r with
    | .error e => .error e
    | .ok ⟨v, t, ht⟩ =>
      items d true (v :: acc) t
        (Nat.le_of_lt (Nat.lt_of_lt_of_le ht (Nat.le_trans (length_nextItem_le hi) hn)))
termination_by s.length
decreasing_by exact Nat.lt_of_lt_of_le ht (length_nextItem_le hi)

/-- Open one more container. -/
def deeper (depth : Nat) (f : Nat → Except Error β) : Except Error β :=
  match depth with
  | 0 => .error .tooDeep
  | 1 => .error .tooDeep
  | d + 2 => f (d + 1)

/-- A list. -/
def list (d : Decoder α) : Decoder (List α) := atByte fun depth b s =>
  if b = 0x5B then
    deeper depth fun depth => items (d depth) false [] s (Nat.le_succ _)
  else .error (refuse .list b s)

/-- The start of the next key of an open object, or `none` with the object's end ahead. -/
def nextKey (started : Bool) (s : List UInt8) : Except Error (Option (List UInt8)) :=
  match skipBlanks s with
  | [] => .error .endOfObject
  | b :: r =>
    if b = 0x7D then .ok none
    else if started then
      if b = 0x2C then
        match skipBlanks r with
        | [] => .error .endOfValue
        | c :: t =>
          if c = 0x22 then .ok (some t)
          else if c = 0x7D then .error .trailingComma
          else .error .keyNotText
      else .error .expectedObjectComma
    else if b = 0x22 then .ok (some r)
    else .error .keyNotText

theorem length_nextKey_lt {started : Bool} {s r : List UInt8}
    (h : nextKey started s = .ok (some r)) : r.length < s.length := by
  unfold nextKey at h
  have hs := length_skipBlanks_le s
  split at h
  · cases h
  · next b t hb =>
    rw [hb] at hs
    split at h
    · cases h
    · split at h
      · split at h
        · have ht := length_skipBlanks_le t
          split at h
          · cases h
          · next c u hc =>
            rw [hc] at ht
            split at h
            · simp only [Except.ok.injEq, Option.some.injEq] at h
              rw [← h]
              simp only [List.length_cons] at *
              omega
            · split at h <;> cases h
        · cases h
      · split at h
        · simp only [Except.ok.injEq, Option.some.injEq] at h
          rw [← h]
          exact hs
        · cases h

/-- The colon between key and value. -/
def colon (s : List UInt8) : Except Error (List UInt8) :=
  match skipBlanks s with
  | [] => .error .endOfObject
  | b :: r => if b = 0x3A then .ok r else .error .expectedColon

theorem length_colon_lt {s r : List UInt8} (h : colon s = .ok r) : r.length < s.length := by
  unfold colon at h
  have hs := length_skipBlanks_le s
  split at h
  · cases h
  · next b t hb =>
    rw [hb] at hs
    split at h
    · simp only [Except.ok.injEq] at h
      rw [← h]
      exact hs
    · cases h

/-- The end of an object whose members have been read. -/
def endObject (s : List UInt8) : Except Error (List UInt8) :=
  match skipBlanks s with
  | [] => .error .endOfObject
  | b :: r =>
    if b = 0x7D then .ok r
    else if b = 0x2C then .error .trailingComma
    else .error .trailingCharacters

theorem length_endObject_lt {s r : List UInt8} (h : endObject s = .ok r) :
    r.length < s.length := by
  unfold endObject at h
  have hs := length_skipBlanks_le s
  split at h
  · cases h
  · next b t hb =>
    rw [hb] at hs
    split at h
    · simp only [Except.ok.injEq] at h
      rw [← h]
      exact hs
    · split at h <;> cases h

/--
The members of an open object. `f` gets the state so far and a key, and reads on from behind the
key; the members' state is handed through.
-/
def members (f : σ → String → (s : List UInt8) → Except Error (Read s.length σ)) {n : Nat}
    (started : Bool) (state : σ) (s : List UInt8) (hn : s.length ≤ n) :
    Except Error (Read n σ) :=
  match hk : nextKey started s with
  | .error e => .error e
  | .ok none =>
    match h : endObject s with
    | .error e => .error e
    | .ok r => .ok ⟨state, r, Nat.lt_of_lt_of_le (length_endObject_lt h) hn⟩
  | .ok (some r) =>
    match hr : Json.text r with
    | .error e => .error e
    | .ok (key, t) =>
      match f state key t with
      | .error e => .error e
      | .ok ⟨state, u, hu⟩ =>
        members f true state u (Nat.le_of_lt (Nat.lt_of_lt_of_le hu
          (Nat.le_of_lt (Nat.lt_trans (length_text_lt hr)
            (Nat.lt_of_lt_of_le (length_nextKey_lt hk) hn)))))
termination_by s.length
decreasing_by
  have := length_text_lt hr
  have := length_nextKey_lt hk
  omega

/-- A member's value, after the colon. -/
def afterColon (d : (s : List UInt8) → Except Error (Read s.length α)) (s : List UInt8) :
    Except Error (Read s.length α) :=
  match h : colon s with
  | .error e => .error e
  | .ok r => (d r).map (Read.widen (Nat.le_of_lt (length_colon_lt h)))

/-- An object of members of one kind; of a repeated key the last value stays. -/
def dict (d : Decoder α) : Decoder (Dict String α) := atByte fun depth b s =>
  if b = 0x7B then
    deeper depth fun depth =>
      members (fun m key t => (afterColon (d depth) t).map (Read.map (m.insert key)))
        false Dict.empty s (Nat.le_succ _)
  else .error (refuse .object b s)

/-! ## Records -/

/-- A field of the record type `σ`: its name, whether it must be there, and how it is read into the
record. -/
structure Field (σ : Type) where
  name : String
  required : Bool
  read : Decoder (σ → σ)

/-- Pass over one value. -/
def skipped : (s : List UInt8) → Except Error (Read s.length Unit) := fun s =>
  match h : skip s with
  | .error e => .error e
  | .ok r => .ok ⟨(), r, length_skip_lt h⟩

/-- One member of a record: the record so far and the names of the fields that were there. -/
def fieldMember (fields : List (Field σ)) (depth : Nat) (state : σ × List String) (key : String)
    (s : List UInt8) : Except Error (Read s.length (σ × List String)) :=
  match fields.find? (fun f => f.name == key) with
  | none => (afterColon skipped s).map (Read.map fun _ => state)
  | some f =>
    if state.2.contains key then .error (.duplicateField key)
    else (afterColon (f.read depth) s).map (Read.map fun set => (set state.1, key :: state.2))

/-- The first required field that was not there. -/
def missing? (fields : List (Field σ)) (seen : List String) : Option String :=
  (fields.find? (fun f => f.required && !seen.contains f.name)).map Field.name

/-- The items of an open list as the fields in order; the index counts the fields before. -/
def positions (name : String) (total depth : Nat) {n : Nat} :
    (fields : List (Field σ)) → (index : Nat) → (state : σ) → (s : List UInt8) → s.length ≤ n →
    Except Error (Read n σ)
  | [], _, state, s, hn =>
    match h : endList s with
    | .error e => .error e
    | .ok r => .ok ⟨state, r, Nat.lt_of_lt_of_le (length_endList_lt h) hn⟩
  | f :: fields, index, state, s, hn =>
    match hi : nextItem (index != 0) s with
    | .error e => .error e
    | .ok none =>
      if f.required then .error (.tooShort index name total)
      else positions name total depth fields (index + 1) state s hn
    | .ok (some r) =>
      match f.read depth r with
      | .error e => .error e
      | .ok ⟨set, t, ht⟩ =>
        positions name total depth fields (index + 1) (set state) t
          (Nat.le_of_lt (Nat.lt_of_lt_of_le ht (Nat.le_trans (length_nextItem_le hi) hn)))

/-- A record. -/
def record (name : String) (fields : List (Field σ)) (initial : σ) : Decoder σ :=
  atByte fun depth b s =>
    if b = 0x5B then
      deeper depth fun depth =>
        positions name fields.length depth fields 0 initial s (Nat.le_succ _)
    else if b = 0x7B then
      deeper depth fun depth => do
        let r ← members (fieldMember fields depth) false (initial, []) s (Nat.le_succ _)
        match missing? fields r.value.2 with
        | some field => .error (.missingField field)
        | none => .ok (r.map Prod.fst)
    else .error (refuse (.record name) b s)

/-! ## Alternatives without contents -/

/-- The value of a name in a table. -/
def named (table : List (String × α)) (name : String) : Except Error α :=
  match table.find? (fun e => e.1 == name) with
  | some e => .ok e.2
  | none => .error (.unknownVariant name (table.map Prod.fst))

/-- One of several names, as a text or as an object with the name as key of a `null`. -/
def variant (table : List (String × α)) : Decoder α := atByte fun depth b s =>
  if b = 0x22 then
    match h : Json.text s with
    | .error e => .error e
    | .ok (t, r) => do .ok ⟨← named table t, r, Nat.lt_succ_of_lt (length_text_lt h)⟩
  else if b = 0x7B then
    deeper depth fun depth =>
      match hk : skipBlanks s with
      | [] => .error .endOfValue
      | c :: t =>
        if c = 0x22 then
          match ht : Json.text t with
          | .error e => .error e
          | .ok (key, u) => do
            let v ← named table key
            let r ← afterColon (null depth) u
            match hr : skipBlanks r.rest with
            | [] => .error .endOfObject
            | e :: rest =>
              if e = 0x7D then
                .ok ⟨v, rest, by
                  have h₁ := length_skipBlanks_le s
                  have h₂ := length_text_lt ht
                  have h₃ := r.shorter
                  have h₄ := length_skipBlanks_le r.rest
                  rw [hk] at h₁
                  rw [hr] at h₄
                  simp only [List.length_cons] at *
                  omega⟩
              else .error .expectedValue
        else .error (refuse .variantName c t)
  else .error .expectedValue

/-! ## Values of any shape -/

/-- A value of any shape, with containers read by `inner`; `none` if no more may be opened. -/
def anyWith (inner : Option ((s : List UInt8) → Except Error (Read s.length Value)))
    (b : UInt8) (s : List UInt8) : Except Error (Read (b :: s).length Value) :=
  if b = 0x6E then
    match h : word ull s with
    | .error e => .error e
    | .ok r => .ok ⟨.null, r, Nat.lt_succ_of_le (length_word_le h)⟩
  else if b = 0x74 then
    match h : word rue s with
    | .error e => .error e
    | .ok r => .ok ⟨.bool true, r, Nat.lt_succ_of_le (length_word_le h)⟩
  else if b = 0x66 then
    match h : word alse s with
    | .error e => .error e
    | .ok r => .ok ⟨.bool false, r, Nat.lt_succ_of_le (length_word_le h)⟩
  else if b = 0x2D then
    match h : numeral true s with
    | .error e => .error e
    | .ok (n, r) => do .ok ⟨.number (← n.value), r, Nat.lt_succ_of_lt (length_numeral_lt h)⟩
  else if isDigit b then
    match h : numeral false (b :: s) with
    | .error e => .error e
    | .ok (n, r) => do .ok ⟨.number (← n.value), r, length_numeral_lt h⟩
  else if b = 0x22 then
    match h : Json.text s with
    | .error e => .error e
    | .ok (t, r) => .ok ⟨.text t, r, Nat.lt_succ_of_lt (length_text_lt h)⟩
  else if b = 0x5B then
    match inner with
    | none => .error .tooDeep
    | some d => (items d false [] s (Nat.le_succ _)).map (Read.map Value.list)
  else if b = 0x7B then
    match inner with
    | none => .error .tooDeep
    | some d =>
      (members (fun m key t => (afterColon d t).map (Read.map (Dict.insert m key)))
        false Dict.empty s (Nat.le_succ _)).map (Read.map (Value.ofDict id))
  else .error .expectedValue

/-- A value of any shape. -/
def value : Decoder Value
  | 0 => atByte (fun _ => anyWith none) 0
  | 1 => atByte (fun _ => anyWith none) 0
  | d + 2 => atByte (fun _ => anyWith (some (value (d + 1)))) 0

end Decoder

/-- The value of a whole document. -/
def Value.parse (s : List UInt8) : Except Error Value := decode Decoder.value s

end CloudGrant.Json
