import FramedHttp.Wire.Chunk
import Mathlib.Tactic.IntervalCases

/-!
# Reading chunks back

A reader of the chunked coding takes a size line, as many octets as it says and a line end, until a size
of zero. What is written as chunks it reads back as one body, and it stops right behind the terminator,
whatever the octets of the body look like.
-/

set_option autoImplicit false

namespace FramedHttp

namespace Octets

/-- The value of a digit, in a base up to sixteen. -/
def digit? (base : Nat) (b : UInt8) : Option Nat :=
  let n := b.toNat
  let value :=
    if 48 ≤ n ∧ n ≤ 57 then some (n - 48)
    else if 97 ≤ n ∧ n ≤ 102 then some (n - 87)
    else if 65 ≤ n ∧ n ≤ 70 then some (n - 55)
    else none
  value.filter (· < base)

/-- The value of some digits read behind digits of value `n`. -/
def digits? (base : Nat) : Nat → Octets → Option Nat
  | n, [] => some n
  | n, b :: rest =>
    match digit? base b with
    | some d => digits? base (base * n + d) rest
    | none => none

/-- A number is at least one digit. -/
def number? (base : Nat) (octets : Octets) : Option Nat :=
  if octets.isEmpty then none else digits? base 0 octets

/-- What stands before the first line end, and what follows it. -/
def line? : Octets → Option (Octets × Octets)
  | 13 :: 10 :: rest => some ([], rest)
  | b :: rest => (line? rest).map fun x => (b :: x.1, x.2)
  | [] => none

theorem digits_append (base : Nat) (a b : Octets) (n : Nat) :
    digits? base n (a ++ b) = (digits? base n a).bind fun m => digits? base m b := by
  induction a generalizing n with
  | nil => rfl
  | cons x rest ih =>
    simp only [List.cons_append, digits?]
    split
    · exact ih _
    · rfl

/-- A digit is one octet, no carriage return, and has its value back. -/
theorem digit_read (base d : Nat) (hb : base ≤ 16) (hd : d < base) :
    ∃ b, String.utf8EncodeChar (Nat.digitChar d) = [b] ∧ digit? base b = some d ∧ b ≠ 13 := by
  have hv : ∀ d < 16, ∃ b, String.utf8EncodeChar (Nat.digitChar d) = [b] ∧ digit? 16 b = some d ∧
      b ≠ 13 := by
    intro d hd
    interval_cases d <;> exact ⟨_, rfl, by decide, by decide⟩
  obtain ⟨b, he, hs, hc⟩ := hv d (by omega)
  have hf := Option.filter_eq_some_iff.mp hs
  exact ⟨b, he, Option.filter_eq_some_iff.mpr ⟨hf.1, by simpa using hd⟩, hc⟩

/-- Written digits are read back, and none of them is a carriage return. -/
theorem digits_read (base : Nat) (h1 : 1 < base) (h16 : base ≤ 16) (n : Nat) :
    digits? base 0 (ofChars (Nat.toDigits base n)) = some n ∧
      13 ∉ ofChars (Nat.toDigits base n) := by
  induction n using Nat.strongRecOn with
  | ind n ih =>
    obtain ⟨b, he, hs, hc⟩ := digit_read base (n % base) h16 (Nat.mod_lt _ (by omega))
    have hlast : ofChars [Nat.digitChar (n % base)] = [b] := by simp [ofChars, he]
    by_cases hn : n < base
    · rw [Nat.mod_eq_of_lt hn] at hlast hs
      rw [Nat.toDigits_of_lt_base hn, hlast]
      exact ⟨by simp [digits?, hs], by simpa using hc.symm⟩
    · have hq : n / base < n := Nat.div_lt_self (by omega) h1
      obtain ⟨hd, hm⟩ := ih _ hq
      rw [Nat.toDigits_of_base_le h1 (by omega), ofChars_append, hlast, digits_append, hd]
      constructor
      · simp [digits?, hs, Nat.div_add_mod]
      · simp [hm, hc.symm]

theorem number_read (base : Nat) (h1 : 1 < base) (h16 : base ≤ 16) (n : Nat) :
    number? base (ofChars (Nat.toDigits base n)) = some n := by
  have hd := (digits_read base h1 h16 n).1
  have hne : ofChars (Nat.toDigits base n) ≠ [] := by
    intro h
    obtain ⟨c, hc⟩ := List.exists_mem_of_ne_nil _ (Nat.toDigits_ne_nil (n := n) (b := base))
    exact String.utf8EncodeChar_ne_nil (List.flatMap_eq_nil_iff.mp h c hc)
  rw [number?, if_neg (by simpa using hne), hd]

theorem line_read {l : Octets} (h : 13 ∉ l) (rest : Octets) : line? (l ++ crlf ++ rest) = some (l, rest) := by
  induction l with
  | nil => rfl
  | cons b l ih =>
    have hb : b ≠ 13 := fun hb => h (by simp [hb])
    have hl : 13 ∉ l := fun hl => h (by simp [hl])
    have hs : line? (b :: (l ++ crlf ++ rest)) = (line? (l ++ crlf ++ rest)).map fun x => (b :: x.1, x.2) :=
      line?.eq_2 b _ fun _ he _ => hb he
    rw [List.cons_append, List.cons_append, hs, ih hl]
    rfl

/-- A line that has ended does not change with what comes behind it. -/
theorem line_append {octets l rest : Octets} (h : line? octets = some (l, rest)) (more : Octets) :
    line? (octets ++ more) = some (l, rest ++ more) := by
  induction octets using line?.induct generalizing l with
  | case1 tail =>
    cases h
    rfl
  | case2 b tail hb ih =>
    rw [line?.eq_2 b tail hb] at h
    obtain ⟨x, hx, he⟩ := Option.map_eq_some_iff.mp h
    obtain ⟨rfl, rfl⟩ := Prod.mk.inj he
    -- What comes behind cannot complete a line end with `b`: the tail is not empty, for it holds a line.
    have hb' : ∀ tail', b = 13 → tail ++ more = 10 :: tail' → False := by
      intro tail' hr ht
      cases tail with
      | nil => cases hx
      | cons c tail =>
        obtain ⟨rfl, -⟩ := List.cons.inj ht
        exact hb tail hr rfl
    rw [List.cons_append, line?.eq_2 b _ hb', ih hx]
    rfl
  | case3 => cases h

theorem line_shorter {octets l rest : Octets} (h : line? octets = some (l, rest)) :
    rest.length < octets.length := by
  induction octets using line?.induct generalizing l with
  | case1 tail =>
    cases h
    simp only [List.length_cons]
    omega
  | case2 b tail hb ih =>
    rw [line?.eq_2 b tail hb] at h
    obtain ⟨x, hx, he⟩ := Option.map_eq_some_iff.mp h
    obtain ⟨rfl, rfl⟩ := Prod.mk.inj he
    have := ih hx
    simp only [List.length_cons]
    omega
  | case3 => cases h

end Octets

namespace Chunk

open Octets

/-- One chunk: its size line, its data and the line end behind them. -/
def readOne? (octets : Octets) : Option (Octets × Octets) :=
  match line? octets with
  | none => none
  | some (size, rest) =>
    match number? 16 size with
    | none => none
    | some n =>
      match rest.drop n with
      | 13 :: 10 :: tail => some (rest.take n, tail)
      | _ => none

/-- What is read as one chunk stands in front: its size, its data and the two line ends. -/
theorem readOne_eq_some {octets data rest : Octets} : readOne? octets = some (data, rest) ↔
    ∃ size, line? octets = some (size, data ++ crlf ++ rest) ∧ number? 16 size = some data.length := by
  constructor
  · intro h
    unfold readOne? at h
    split at h
    · cases h
    · next size body hl =>
      split at h
      · cases h
      · next n hn =>
        split at h
        · next tail ht =>
          cases h
          have hlen := congrArg List.length ht
          simp only [List.length_drop, List.length_cons] at hlen
          have hbody : body.take n ++ crlf ++ rest = body := by
            rw [List.append_assoc]
            exact (congrArg (body.take n ++ ·) ht.symm).trans (List.take_append_drop n body)
          have htake : (body.take n).length = n := List.length_take_of_le (by omega)
          rw [hbody, htake]
          exact ⟨size, hl, hn⟩
        · cases h
  · rintro ⟨size, hl, hn⟩
    have hd : (data ++ crlf ++ rest).drop data.length = 13 :: 10 :: rest := by
      rw [List.append_assoc, List.drop_left]
      rfl
    have ht : (data ++ crlf ++ rest).take data.length = data := by
      rw [List.append_assoc, List.take_left]
    simp only [readOne?, hl, hn, hd, ht]

/-- A chunk is more than its data. -/
theorem readOne_length {octets data rest : Octets} (h : readOne? octets = some (data, rest)) :
    data.length + rest.length < octets.length := by
  obtain ⟨size, hl, -⟩ := readOne_eq_some.mp h
  have hs := line_shorter hl
  simp only [List.length_append] at hs
  omega

theorem readOne_shorter {octets data rest : Octets} (h : readOne? octets = some (data, rest)) :
    rest.length < octets.length := by
  have hl := readOne_length h
  omega

/-- A chunk that is read does not change with what comes behind it. -/
theorem readOne_append {octets data rest : Octets} (h : readOne? octets = some (data, rest)) (more : Octets) :
    readOne? (octets ++ more) = some (data, rest ++ more) := by
  obtain ⟨size, hl, hn⟩ := readOne_eq_some.mp h
  refine readOne_eq_some.mpr ⟨size, ?_, hn⟩
  rw [line_append hl, List.append_assoc]

theorem readOne_sized (data rest : Octets) :
    readOne? (sizeLine data ++ data ++ crlf ++ rest) = some (data, rest) := by
  have hl : line? (sizeLine data ++ (data ++ crlf ++ rest)) = some (hex data.length, data ++ crlf ++ rest) :=
    line_read (digits_read 16 (by decide) (by decide) _).2 _
  refine readOne_eq_some.mpr ⟨hex data.length, ?_, number_read 16 (by decide) (by decide) _⟩
  rw [← hl]
  simp only [List.append_assoc]

/-- The body in front of its last chunk, which is empty, and what is left behind it. -/
def read? (octets : Octets) : Option (Octets × Octets) :=
  match _ : readOne? octets with
  | none => none
  | some ([], left) => some ([], left)
  | some (b :: data, rest) => (read? rest).map fun x => (b :: data ++ x.1, x.2)
termination_by octets.length
decreasing_by exact readOne_shorter ‹_›

section Body

variable {octets data rest : Octets}

theorem read_none (h : readOne? octets = none) : read? octets = none := by
  rw [read?]
  split
  · rfl
  · next hr => cases h.symm.trans hr
  · next hr => cases h.symm.trans hr

/-- The chunk that is empty ends the body. -/
theorem read_last (h : readOne? octets = some ([], rest)) : read? octets = some ([], rest) := by
  rw [read?]
  split
  · next hr => cases h.symm.trans hr
  · next hr => exact hr.symm.trans h
  · next hr => cases h.symm.trans hr

theorem read_more (h : readOne? octets = some (data, rest)) (hd : data ≠ []) :
    read? octets = (read? rest).map fun x => (data ++ x.1, x.2) := by
  rw [read?]
  split
  · next hr => cases h.symm.trans hr
  · next hr =>
    cases h.symm.trans hr
    exact absurd rfl hd
  · next hr =>
    cases h.symm.trans hr
    rfl

/-- A body is its last chunk, or a chunk and a body behind it. -/
theorem read_cases {body left : Octets} (h : read? octets = some (body, left)) :
    readOne? octets = some ([], left) ∧ body = [] ∨
      ∃ data rest tail, readOne? octets = some (data, rest) ∧ data ≠ [] ∧ read? rest = some (tail, left) ∧
        body = data ++ tail := by
  cases ho : readOne? octets with
  | none => cases (read_none ho).symm.trans h
  | some chunk =>
    obtain ⟨data, rest⟩ := chunk
    by_cases hd : data = []
    · subst hd
      cases (read_last ho).symm.trans h
      exact .inl ⟨rfl, rfl⟩
    · obtain ⟨x, hx, he⟩ := Option.map_eq_some_iff.mp ((read_more ho hd).symm.trans h)
      obtain ⟨rfl, rfl⟩ := Prod.mk.inj he
      exact .inr ⟨data, rest, x.1, rfl, hd, hx, rfl⟩

/-- A body that is read does not change with what comes behind it. -/
theorem read_append {body left : Octets} (h : read? octets = some (body, left)) (more : Octets) :
    read? (octets ++ more) = some (body, left ++ more) := by
  induction hn : octets.length using Nat.strongRecOn generalizing octets body with
  | ind n ih =>
    rcases read_cases h with ⟨ho, rfl⟩ | ⟨data, rest, tail, ho, hd, ht, rfl⟩
    · exact read_last (readOne_append ho more)
    · have hs : rest.length < n := hn ▸ readOne_shorter ho
      rw [read_more (readOne_append ho more) hd, ih _ hs ht rfl]
      rfl

/-- What is read is shorter than what it was read from. -/
theorem read_length {body left : Octets} (h : read? octets = some (body, left)) : body.length < octets.length := by
  induction hn : octets.length using Nat.strongRecOn generalizing octets body with
  | ind n ih =>
    rcases read_cases h with ⟨ho, rfl⟩ | ⟨data, rest, tail, ho, -, ht, rfl⟩
    · exact hn ▸ Nat.lt_of_le_of_lt (Nat.zero_le _) (readOne_shorter ho)
    · have hs := readOne_length ho
      have htail := ih rest.length (by omega) ht rfl
      simp only [List.length_append]
      omega

/-- A chunk of some octets is read, and reading goes on behind it. -/
theorem read_encode (h : data ≠ []) (rest : Octets) :
    read? (encode data ++ rest) = (read? rest).map fun x => (data ++ x.1, x.2) := by
  have he : encode data = sizeLine data ++ data ++ crlf := if_neg (by simpa using h)
  rw [he]
  exact read_more (readOne_sized data rest) h

theorem read_terminator (rest : Octets) : read? (terminator ++ rest) = some ([], rest) :=
  read_last (readOne_sized [] rest)

/-- Pieces written as chunks are read back as one body, and nothing behind the terminator is touched. -/
theorem read_pieces (pieces : List Octets) (rest : Octets) :
    read? (pieces.flatMap encode ++ terminator ++ rest) = some (pieces.flatten, rest) := by
  induction pieces with
  | nil => exact read_terminator rest
  | cons p ps ih =>
    rw [List.append_assoc] at ih
    by_cases hp : p = []
    · simpa [hp, encode] using ih
    · rw [List.flatMap_cons, List.append_assoc, List.append_assoc, read_encode hp, ih]
      rfl

/-- Nothing less than all the chunks and the last one is read as a body. -/
theorem read_cut (pieces : List Octets) {part missing : Octets} (hm : missing ≠ [])
    (h : part ++ missing = pieces.flatMap encode ++ terminator) : read? part = none := by
  cases hr : read? part with
  | none => rfl
  | some x =>
    have hall := read_pieces pieces []
    rw [List.append_nil, ← h, read_append hr missing] at hall
    have hleft := congrArg Prod.snd (Option.some.inj hall)
    exact absurd (List.append_eq_nil_iff.mp hleft).2 hm

/-- Without a last chunk there is no body to be read. -/
theorem read_unended (pieces : List Octets) : read? (pieces.flatMap encode) = none :=
  read_cut pieces (by decide) rfl

end Body

end Chunk

end FramedHttp
