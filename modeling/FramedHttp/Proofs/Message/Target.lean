import Mathlib.Data.List.TakeWhile
import FramedHttp.Message.Head

/-!
# Path and query of a target

Path and query make up the origin form of a target. The first "://" of a target is taken for the end of a
scheme wherever it stands, so a target in origin form keeps its path and query just where it holds none.
-/

set_option autoImplicit false

namespace FramedHttp

namespace Target

/-- What stands between scheme and authority. -/
def separator : List Char := [':', '/', '/']

theorem afterScheme_separator (rest : List Char) : afterScheme (separator ++ rest) = some rest := rfl

theorem afterScheme_cons {c : Char} {rest : List Char} (h : ¬ separator <+: c :: rest) :
    afterScheme (c :: rest) = afterScheme rest := by
  rw [afterScheme]
  intro tail hc hrest
  exact h ⟨tail, by rw [hc, hrest]; rfl⟩

/-- A scheme holds no colon, so that the first separator ends it. -/
theorem afterScheme_append {scheme : List Char} (hs : ':' ∉ scheme) (rest : List Char) :
    afterScheme (scheme ++ separator ++ rest) = some rest := by
  induction scheme with
  | nil => rfl
  | cons c scheme ih =>
    obtain ⟨hc, hs⟩ := not_or.mp (mt List.mem_cons.mpr hs)
    have hp : ¬ separator <+: c :: (scheme ++ separator ++ rest) := fun h => hc (List.cons_prefix_cons.mp h).1
    exact (afterScheme_cons hp).trans (ih hs)

theorem afterScheme_none_iff {target : List Char} : afterScheme target = none ↔ ¬ separator <:+: target := by
  induction target with
  | nil => simp [afterScheme, separator]
  | cons c rest ih =>
    rw [List.infix_cons_iff]
    by_cases hp : separator <+: c :: rest
    · obtain ⟨tail, ht⟩ := hp
      simp [← ht, afterScheme_separator]
    · rw [afterScheme_cons hp, ih]
      simp [hp]

/-- What follows the separator is shorter than the target by the separator at least. -/
theorem afterScheme_length {target rest : List Char} (h : afterScheme target = some rest) :
    rest.length + separator.length ≤ target.length := by
  induction target with
  | nil => cases h
  | cons c target ih =>
    by_cases hp : separator <+: c :: target
    · obtain ⟨tail, ht⟩ := hp
      rw [← ht, afterScheme_separator, Option.some.injEq] at h
      rw [← ht, h, List.length_append]
      omega
    · rw [afterScheme_cons hp] at h
      have hl := ih h
      rw [List.length_cons]
      omega

/-- A target is its own origin form exactly when it holds no separator. -/
theorem originForm_self_iff {target : List Char} : originForm target = target ↔ ¬ separator <:+: target := by
  rw [← afterScheme_none_iff, originForm]
  cases h : afterScheme target with
  | none => simp
  | some rest =>
    have hl := afterScheme_length h
    have hd := List.length_dropWhile_le (fun c => !endsAuthority c) rest
    have hs : separator.length = 3 := rfl
    apply iff_of_false
    · intro he
      have he := congrArg List.length he
      dsimp only at he
      split at he
      · rw [List.length_singleton] at he
        omega
      · omega
    · exact nofun

/-- Scheme and authority are cut off, whatever follows them. -/
theorem originForm_absolute {scheme authority origin : List Char} (hs : ':' ∉ scheme)
    (ha : ∀ c ∈ authority, endsAuthority c = false) :
    originForm (scheme ++ separator ++ authority ++ '/' :: origin) = '/' :: origin := by
  have hd : (authority ++ '/' :: origin).dropWhile (fun c => !endsAuthority c) = '/' :: origin := by
    rw [List.dropWhile_append_of_pos (by simpa using ha)]
    rfl
  rw [originForm, List.append_assoc, afterScheme_append hs]
  dsimp only
  rw [hd]

/-- Path and query, with the question mark between them. -/
theorem path_append_query (target : List Char) :
    path target ++ (query? target).elim [] ('?' :: ·) = originForm target := by
  have hcut := List.takeWhile_append_dropWhile (p := (· != '?')) (l := originForm target)
  unfold path query?
  cases hd : (originForm target).dropWhile (· != '?') with
  | nil => rwa [hd] at hcut
  | cons c query =>
    have hc := List.head?_dropWhile_not (· != '?') (originForm target)
    rw [hd] at hc hcut
    have hq : c = '?' := by simpa using hc
    rwa [hq] at hcut

end Target

open Target

namespace RequestHead

/-- Path and query, with the question mark between them. -/
def pathAndQuery (h : RequestHead) : String :=
  h.path ++ h.query?.elim "" ("?" ++ ·)

theorem pathAndQuery_originForm (h : RequestHead) :
    h.pathAndQuery = String.ofList (originForm h.target.toList) := by
  rw [← path_append_query, pathAndQuery, path, query?]
  cases Target.query? h.target.toList <;> simp [String.ofList_append]

/-- Path and query depend on the origin form alone. -/
theorem same_originForm {g h : RequestHead} (he : originForm g.target.toList = originForm h.target.toList) :
    g.path = h.path ∧ g.query? = h.query? := by
  simp only [path, query?, Target.path, Target.query?, he, and_self]

/-- Path and query give the target back exactly when it holds no separator. -/
theorem pathAndQuery_target_iff (h : RequestHead) :
    h.pathAndQuery = h.target ↔ ¬ "://".toList <:+: h.target.toList := by
  have ht : h.pathAndQuery = h.target ↔ originForm h.target.toList = h.target.toList := by
    rw [pathAndQuery_originForm, ← String.toList_inj, String.toList_ofList]
  exact ht.trans originForm_self_iff

/-- A target in origin form is its path and query exactly when it holds no "://". Behind a scheme and an
authority it is so in any case, so that the two forms of a target agree exactly when it holds none. -/
theorem target_forms (head : RequestHead) (scheme authority origin : String) (hs : ':' ∉ scheme.toList)
    (ha : ∀ c ∈ authority.toList, c ≠ '/' ∧ c ≠ '?') (ho : origin.toList.head? = some '/') :
    let plain := { head with target := origin }
    let absolute := { head with target := scheme ++ "://" ++ authority ++ origin }
    (plain.pathAndQuery = origin ↔ ¬ "://".toList <:+: origin.toList) ∧
    absolute.pathAndQuery = origin ∧
    (absolute.path = plain.path ∧ absolute.query? = plain.query? ↔ ¬ "://".toList <:+: origin.toList) := by
  intro plain absolute
  have hplain : plain.pathAndQuery = origin ↔ ¬ "://".toList <:+: origin.toList := pathAndQuery_target_iff plain
  have hform : originForm absolute.target.toList = origin.toList := by
    obtain ⟨tail, htail⟩ := List.head?_eq_some_iff.mp ho
    have ha : ∀ c ∈ authority.toList, endsAuthority c = false := by
      intro c hc
      simp [endsAuthority, ha c hc]
    have hcut : originForm (scheme.toList ++ separator ++ authority.toList ++ '/' :: tail) = '/' :: tail :=
      originForm_absolute hs ha
    simp only [absolute, String.toList_append, htail]
    exact hcut
  have habsolute : absolute.pathAndQuery = origin := by
    rw [pathAndQuery_originForm, hform, String.ofList_toList]
  refine ⟨hplain, habsolute, fun ⟨hpath, hquery⟩ => ?_, fun hn => ?_⟩
  · apply hplain.mp
    rw [← habsolute, pathAndQuery, pathAndQuery, hpath, hquery]
  · apply same_originForm
    rw [hform]
    exact (originForm_self_iff.mpr hn).symm

/-- The two forms of a target with a query. -/
theorem search_forms :
    let head : RequestHead := { method := .get, target := "/", version := .http11 }
    let plain := { head with target := "/search?q=1?2" }
    let absolute := { head with target := "http://localhost:8080/search?q=1?2" }
    ':' ∉ "http".toList ∧ (∀ c ∈ "localhost:8080".toList, c ≠ '/' ∧ c ≠ '?') ∧
      ¬ "://".toList <:+: "/search?q=1?2".toList ∧ plain.pathAndQuery = "/search?q=1?2" ∧
      absolute.path = plain.path ∧ absolute.query? = plain.query? := by
  intro head
  have hs : ':' ∉ "http".toList := by decide
  have ha : ∀ c ∈ "localhost:8080".toList, c ≠ '/' ∧ c ≠ '?' := by simp
  have hn : ¬ "://".toList <:+: "/search?q=1?2".toList :=
    afterScheme_none_iff.mp (by decide +kernel)
  have htext : "http" ++ "://" ++ "localhost:8080" ++ "/search?q=1?2" = "http://localhost:8080/search?q=1?2" := by
    decide
  obtain ⟨hplain, _, hforms⟩ := target_forms head "http" "localhost:8080" "/search?q=1?2" hs ha rfl
  rw [htext] at hforms
  exact ⟨hs, ha, hn, hplain.mpr hn, hforms.mpr hn⟩

/-- A location in the query of a target in origin form is taken for the target itself. -/
theorem nested_location_lost :
    let plain : RequestHead := { method := .get, target := "/login?next=http://example.com/home", version := .http11 }
    let absolute := { plain with target := "http://localhost" ++ plain.target }
    plain.path = "/home" ∧ plain.query? = none ∧ plain.pathAndQuery ≠ plain.target ∧
      absolute.path = "/login" ∧ absolute.query? = some "next=http://example.com/home" := by
  decide +kernel

end RequestHead

end FramedHttp
