import Gvpn.Data.Lines
import Gvpn.Fronter.Cache

/-! Where the time comes from for which a response is stored. -/

namespace Gvpn

open List Option

section

variable {α : Type} {pattern line rest : List α} {mark : α}

/-- What opens a line and its end without that end opens the line. -/
theorem prefix_of_prefix_append_cons (foreign : mark ∉ pattern)
    (opens : pattern <+: line ++ mark :: rest) : pattern <+: line := by
  have marked : line ++ [mark] <+: line ++ mark :: rest := ⟨rest, by simp⟩
  rcases prefix_or_prefix_of_prefix opens marked with shorter | longer
  · rcases List.prefix_concat_iff.mp shorter with whole | inside
    · exact absurd (whole ▸ mem_concat_self) foreign
    · exact inside
  · exact absurd (longer.subset mem_concat_self) foreign

/-- A pattern is not found across a character that it does not have. -/
theorem cut_across [DecidableEq α] (foreign : mark ∉ pattern) (solid : pattern ≠ [])
    (absent : cut pattern line = none) (rest : List α) :
    cut pattern (line ++ mark :: rest) =
      (cut pattern rest).map fun parts => (line ++ mark :: parts.1, parts.2) := by
  induction line with
  | nil =>
    apply cut_cons_elsewhere
    intro opens
    exact solid (List.prefix_nil.mp (prefix_of_prefix_append_cons foreign opens))
  | cons first line ih =>
    have elsewhere : ¬ pattern <+: first :: line := by
      intro opens
      rw [cut, if_pos (List.isPrefixOf_iff_prefix.mpr opens)] at absent
      cases absent
    have further : ¬ pattern <+: first :: (line ++ mark :: rest) := fun opens =>
      elsewhere (prefix_of_prefix_append_cons foreign opens)
    rw [cut_cons_elsewhere elsewhere, map_eq_none_iff] at absent
    rw [cons_append, cut_cons_elsewhere further, ih absent, Option.map_map]
    rfl

end

/-- The number is that of the line, if the line has a `max-age=`, and of what follows otherwise. -/
theorem maxAge_across {mark : Char} (foreign : mark ∉ lit "max-age=") (ends : mark.isDigit = false)
    (line rest : Text) :
    maxAge (line ++ mark :: rest) =
      if contains (lit "max-age=") line then maxAge line else maxAge rest := by
  unfold maxAge contains
  cases found : cut (lit "max-age=") line with
  | some parts =>
    rw [cut_append found]
    simp only [bind_some, takeWhile_append, takeWhile_cons, ends, isSome_some,
      Bool.false_eq_true, if_false, append_nil, if_true]
    split
    · rename_i all
      rw [(List.takeWhile_prefix _).eq_of_length all]
    · rfl
  | none =>
    rw [cut_across foreign (by with_unfolding_all decide) found, bind_map]
    rfl

/-- Of several lines, the first with a `max-age=` decides. -/
theorem maxAge_lines (lines : List Text) :
    maxAge (lines.flatMap (· ++ ['\r', '\n'])) =
      (lines.find? (contains (lit "max-age="))).bind maxAge := by
  induction lines with
  | nil => with_unfolding_all rfl
  | cons line lines ih =>
    have behind : maxAge ('\n' :: lines.flatMap (· ++ ['\r', '\n'])) =
        maxAge (lines.flatMap (· ++ ['\r', '\n'])) := by
      rw [← nil_append (_ :: _), maxAge_across (by with_unfolding_all decide) rfl,
        if_neg (by with_unfolding_all decide)]
    rw [flatMap_cons, append_assoc, cons_append, maxAge_across (by with_unfolding_all decide) rfl,
      find?_cons]
    cases contains (lit "max-age=") line with
    | true => rfl
    | false => exact behind.trans ih

/-- So does the first one of a head. -/
theorem maxAge_eq (head : Text) :
    maxAge head = ((splitCrlf head).find? (contains (lit "max-age="))).bind maxAge := by
  rw [← maxAge_lines, flatMap_splitCrlf, maxAge_across (by with_unfolding_all decide) rfl]
  split
  · rfl
  · rename_i absent
    have nothing : cut (lit "max-age=") head = none := by simpa [contains] using absent
    rw [maxAge, nothing]
    with_unfolding_all rfl

/-- The directives of a field, between commas that stand in no quotes. -/
def directives : Bool → Text → Text → List Text
  | _, current, [] => [current]
  | true, current, '\\' :: c :: rest => directives true (current ++ ['\\', c]) rest
  | quoted, current, c :: rest =>
    if c = ',' ∧ quoted = false then current :: directives false [] rest
    else directives (quoted != (c = '"')) (current ++ [c]) rest

/-- The directives of all `Cache-Control` fields of a head in small letters, in order. -/
def cacheControlDirectives (head : Text) : List Text :=
  ((splitCrlf head).drop 1).flatMap fun line =>
    match stripStart (lit "cache-control:") line with
    | none => []
    | some value => (directives false [] value).map trim

/-- The seconds that the `max-age` directive of `Cache-Control` gives, the first one if repeated. -/
def cacheControlMaxAge (head : Text) : Option Nat :=
  ((cacheControlDirectives head).findSome? (stripStart (lit "max-age="))).bind fun digits =>
    if digits ≠ [] ∧ digits.all Char.isDigit then some (readDigits digits) else none

-- A `max-age=` in quotes is none.
example : cacheControlMaxAge (lit "\r\ncache-control: ext=\"a, max-age=500\", max-age=10") = some 10 := by
  with_unfolding_all decide

/-- The number behind the first `max-age=`, in the first line that has one, whatever field it is. -/
def FirstAge (head : Text) (secs : Nat) : Prop :=
  ∃ line front digits, (splitCrlf head).find? (contains (lit "max-age=")) = some line ∧
    cut (lit "max-age=") line = some (front, digits) ∧
    parseUnsigned (2 ^ 64) (digits.takeWhile Char.isDigit) = some secs

/-- Nothing but its age can keep a response from being stored. -/
def Storable (head : Text) : Prop :=
  ((lit "http/1.1 200").isPrefixOf (head.takeWhile (· ≠ '\n')) ∨
      (lit "http/1.0 200").isPrefixOf (head.takeWhile (· ≠ '\n'))) ∧
    ¬ (contains (lit "no-store") head ∨ contains (lit "no-cache") head ∨
      contains (lit "private") head) ∧ ¬ contains (lit "set-cookie:") head

/-- The head of a response in small letters. -/
def lowerHead (rawResponse : Bytes) : Option Text :=
  (cut headEnd rawResponse).bind fun parts => (fromUtf8 parts.1).map lower

/-- The number that is read is the first one of the head. -/
theorem maxAge_eq_some_iff {head : Text} {secs : Nat} :
    maxAge head = some secs ↔ FirstAge head secs := by
  rw [maxAge_eq, Option.bind_eq_some_iff]
  refine exists_congr fun line => ?_
  simp only [maxAge, Option.bind_eq_some_iff, Prod.exists]
  tauto

/-- A head is stored for the first number in it, up to a day, or for the default. -/
theorem headTtl_eq_some_iff {head url : Text} {ttl : Nat} :
    headTtl head url = some ttl ↔ Storable head ∧
      ((∃ secs, FirstAge head secs ∧ secs ≠ 0 ∧ ttl = min secs 86400) ∨
        (∀ secs, ¬ FirstAge head secs) ∧ defaultTtl head url = some ttl) := by
  simp only [← maxAge_eq_some_iff]
  unfold headTtl Storable
  dsimp only
  split_ifs with other forbidden cookie
  · -- The status is not 200.
    simp only [false_iff]
    tauto
  · simp [forbidden]
  · simp [cookie]
  · have fine : ((lit "http/1.1 200").isPrefixOf (head.takeWhile (· ≠ '\n')) = true ∨
        (lit "http/1.0 200").isPrefixOf (head.takeWhile (· ≠ '\n')) = true) := by tauto
    simp only [fine, forbidden, cookie, not_false_eq_true, true_and]
    cases aged : maxAge head with
    | none => simp
    | some secs => cases secs <;> simp [eq_comm]

/-- A response is stored for as long as its head says. -/
theorem parseTtl_eq (rawResponse : Bytes) (url : Text) :
    parseTtl rawResponse url = (lowerHead rawResponse).bind (headTtl · url) := by
  unfold parseTtl lowerHead
  cases cut headEnd rawResponse with
  | none => rfl
  | some parts => simp only [bind_some, bind_map]; rfl

/-- A response without a `Cache-Control` field. -/
def strictPage : Bytes :=
  toUtf8 (lit "HTTP/1.1 200 OK\r\nStrict-Transport-Security: max-age=31536000\r\n\r\n")

end Gvpn
