import Gvpn.Fronter.Url

/-! Which host is taken out of an address. -/

namespace Gvpn

open List

/-- A character of a registered name or an address with four numbers. -/
def isNameChar (c : Char) : Bool := c.isAlphanum || c ∈ lit "-._~!$&'()*+,;=%"

/-- A character of user information, and of an address in brackets. -/
def isUserChar (c : Char) : Bool := isNameChar c || c = ':'

/-- A character of a path. -/
def isPathChar (c : Char) : Bool := isNameChar c || c ∈ lit ":@/"

/-- A character of a query or a fragment. -/
def isQueryChar (c : Char) : Bool := isPathChar c || c = '?'

/-- The host of an address: a name, or a literal in brackets. -/
inductive UrlHost where
  | name (text : Text) (nonempty : text ≠ []) (chars : text.all isNameChar = true)
  | literal (text : Text) (nonempty : text ≠ []) (chars : text.all isUserChar = true)

/-- The host as it is written in an address, a literal with its brackets. -/
def UrlHost.text : UrlHost → Text
  | .name text _ _ => text
  | .literal text _ _ => '[' :: text ++ [']']

/-- The host without brackets. -/
def UrlHost.address : UrlHost → Text
  | .name text _ _ | .literal text _ _ => text

/-- The host is written in brackets. -/
def UrlHost.bracketed : UrlHost → Bool
  | .name _ _ _ => false
  | .literal _ _ _ => true

/-- An absolute address with every part that the grammar allows. -/
structure HttpUrl where
  scheme : Text
  userinfo : Option Text
  host : UrlHost
  port : Option Text
  path : Text
  query : Option Text
  fragment : Option Text
  isScheme : lower scheme = lit "http" ∨ lower scheme = lit "https"
  isUserinfo : ∀ text ∈ userinfo, text.all isUserChar = true
  isPort : ∀ text ∈ port, text.all Char.isDigit = true
  isPath : (path = [] ∨ path.head? = some '/') ∧ path.all isPathChar = true
  isQuery : ∀ text ∈ query, text.all isQueryChar = true
  isFragment : ∀ text ∈ fragment, text.all isQueryChar = true

namespace HttpUrl

variable (url : HttpUrl)

/-- The host with its port. -/
def hostPort : Text := url.host.text ++ url.port.elim [] (':' :: ·)

/-- What stands between the two slashes and the path. -/
def authority : Text := url.userinfo.elim [] (· ++ ['@']) ++ url.hostPort

/-- What stands behind the authority. -/
def tail : Text := url.path ++ url.query.elim [] ('?' :: ·) ++ url.fragment.elim [] ('#' :: ·)

/-- What stands behind the authority up to the next slash: nothing, unless the path is empty. -/
def stray : Text := before '/' url.tail

/-- The whole address. -/
def text : Text := url.scheme ++ lit "://" ++ (url.authority ++ url.tail)

/--
The stray text does no harm: there is none; or it has no `@` and a port or a bracket ends the host
before it; or what it has behind its last `@` is that host again.
-/
def Clear : Prop :=
  url.stray = [] ∨
    ('@' ∉ url.stray ∧ (url.port ≠ none ∨ url.host.bracketed = true)) ∨
    ('@' ∈ url.stray ∧ lower (before ':' (afterLast '@' url.stray)) = lower url.host.address)

end HttpUrl

/-- A character that the test of every character refuses is not among them. -/
theorem not_mem_of_all {test : Char → Bool} {text : Text} (each : text.all test = true) {c : Char}
    (other : test c = false) : c ∉ text := by
  intro member
  have holds := List.all_eq_true.mp each c member
  rw [other] at holds
  contradiction

/-- A text without the mark is passed over. -/
theorem before_append {stop : Char} {front : Text} (free : stop ∉ front) (back : Text) :
    before stop (front ++ back) = front ++ before stop back := by
  refine takeWhile_append_of_pos ?_
  intro c member
  exact decide_eq_true fun same => free (same ▸ member)

/-- Behind the last mark comes what holds no mark, with a mark before it or not. -/
theorem afterLast_append {mark : Char} {back : Text} (free : mark ∉ back) (front : Text) :
    afterLast mark (front ++ mark :: back) = back ∧ afterLast mark back = back := by
  have backwards (rest : Text) := before_append (mt List.mem_reverse.mp free) rest
  unfold before at backwards
  unfold afterLast
  constructor
  · rw [reverse_append, reverse_cons, append_assoc, singleton_append, backwards]
    simp
  · have all := backwards []
    rw [append_nil] at all
    rw [all]
    simp

/-- A text with the mark decides what comes behind the last one. -/
theorem afterLast_append_of_mem {mark : Char} {back : Text} (marked : mark ∈ back) (front : Text) :
    afterLast mark (front ++ back) = afterLast mark back := by
  have stops : (back.reverse.takeWhile (· ≠ mark)).length ≠ back.reverse.length := by
    intro same
    have whole := (List.takeWhile_prefix _).eq_of_length same
    have each := @all_takeWhile _ (· ≠ mark) back.reverse
    rw [whole] at each
    simpa using List.all_eq_true.mp each mark (mem_reverse.mpr marked)
  rw [afterLast, reverse_append, takeWhile_append, if_neg stops, afterLast]

/-- The host in an authority without user information. -/
def authorityHost (authority : Text) : Text :=
  match authority with
  | '[' :: inner => before ']' inner
  | _ => before ':' authority

/-- Without a bracket, the host ends at the first colon. -/
theorem authorityHost_of_free {authority : Text} (free : '[' ∉ authority) :
    authorityHost authority = before ':' authority := by
  unfold authorityHost
  split
  · simp at free
  · rfl

namespace HttpUrl

variable (url : HttpUrl)

/-- Host and port hold no `@` and no slash. -/
theorem not_mem_hostPort {c : Char} (other : c = '@' ∨ c = '/') : c ∉ url.hostPort := by
  have name : isNameChar c = false := by rcases other with rfl | rfl <;> with_unfolding_all rfl
  have user : isUserChar c = false := by rcases other with rfl | rfl <;> with_unfolding_all rfl
  have plain : c ∉ ['[', ']', ':'] ∧ c.isDigit = false := by
    rcases other with rfl | rfl <;> decide
  have host : c ∉ url.host.text := by
    cases url.host with
    | name text nonempty chars => exact not_mem_of_all chars name
    | literal text nonempty chars =>
      have inside := not_mem_of_all chars user
      simp_all [UrlHost.text]
  have port : c ∉ url.port.elim [] (':' :: ·) := by
    cases given : url.port with
    | none => simp
    | some digits =>
      have inside := not_mem_of_all (url.isPort digits given) plain.2
      simp_all
  simp [hostPort, host, port]

/-- In brackets, the host ends at the bracket. -/
theorem authorityHost_literal {text : Text} (chars : text.all isUserChar = true) (rest : Text) :
    authorityHost ('[' :: text ++ ']' :: rest) = text := by
  have free : ']' ∉ text := not_mem_of_all chars (by with_unfolding_all rfl)
  simpa [authorityHost, before] using before_append free (']' :: rest)

/-- A name ends at the first colon behind it. -/
theorem authorityHost_name {text : Text} (nonempty : text ≠ [])
    (chars : text.all isNameChar = true) (rest : Text) :
    authorityHost (text ++ rest) = text ++ before ':' rest := by
  have free : ':' ∉ text := not_mem_of_all chars (by with_unfolding_all rfl)
  have plain : '[' ∉ text := not_mem_of_all chars (by with_unfolding_all rfl)
  rw [← before_append free]
  unfold authorityHost
  split
  · -- A name does not begin with a bracket.
    cases text with
    | nil => contradiction
    | cons first others => simp_all
  · rfl

/-- The authority holds no slash. -/
theorem slash_not_mem_authority : '/' ∉ url.authority := by
  have host : '/' ∉ url.hostPort := url.not_mem_hostPort (.inr rfl)
  unfold authority
  cases given : url.userinfo with
  | none => simpa using host
  | some user =>
    have other : isUserChar '/' = false := by with_unfolding_all rfl
    have inside : '/' ∉ user := not_mem_of_all (url.isUserinfo user given) other
    simp [inside, host]

/-- No character behind the authority opens a bracket. -/
theorem bracket_not_mem_tail : '[' ∉ url.tail := by
  have query : isQueryChar '[' = false := by with_unfolding_all rfl
  have path := not_mem_of_all url.isPath.2 (by with_unfolding_all rfl : isPathChar '[' = false)
  have asked : '[' ∉ url.query.elim [] ('?' :: ·) := by
    cases given : url.query with
    | none => simp
    | some text => simpa using not_mem_of_all (url.isQuery text given) query
  have marked : '[' ∉ url.fragment.elim [] ('#' :: ·) := by
    cases given : url.fragment with
    | none => simp
    | some text => simpa using not_mem_of_all (url.isFragment text given) query
  simp [tail, path, asked, marked]

/-- The stray text is empty, or opens with the mark of a query or a fragment. -/
theorem stray_opens : url.stray = [] ∨ ∃ mark rest, url.stray = mark :: rest ∧ mark ≠ ':' := by
  unfold stray tail
  rcases url.isPath.1 with empty | rooted
  · rw [empty]
    cases url.query <;> cases url.fragment <;> simp [before]
  · obtain ⟨rest, path⟩ := List.head?_eq_some_iff.mp rooted
    simp [path, before]

/-- With user information dropped, host and port come first, unless the stray text has an `@`. -/
theorem afterLast_stray :
    afterLast '@' (before '/' (url.authority ++ url.tail)) =
      if '@' ∈ url.stray then afterLast '@' url.stray else url.hostPort ++ url.stray := by
  rw [before_append url.slash_not_mem_authority, ← stray]
  split_ifs with marked
  · exact afterLast_append_of_mem marked _
  · have free : '@' ∉ url.hostPort ++ url.stray := by
      simp [url.not_mem_hostPort (.inl rfl), marked]
    unfold authority
    cases url.userinfo with
    | none => exact (afterLast_append free []).2
    | some user => simpa using (afterLast_append free user).1

/-- The host that is found in an address. -/
def found : Text :=
  authorityHost (if '@' ∈ url.stray then afterLast '@' url.stray else url.hostPort ++ url.stray)

/-- The host that is found is returned in lower case, if there is one. -/
theorem extractHost_text :
    extractHost url.text = if url.found = [] then none else some (lower url.found) := by
  have marks : lit "://" = [':', '/', '/'] := by with_unfolding_all rfl
  have scheme : ':' ∉ url.scheme := by
    intro member
    have inLower : ':' ∈ lower url.scheme := List.mem_map.mpr ⟨':', member, rfl⟩
    rcases url.isScheme with is | is <;> exact absurd (is ▸ inLower) (by with_unfolding_all decide)
  have behind : cut (lit "://") url.text = some (url.scheme, url.authority ++ url.tail) := by
    rw [HttpUrl.text, marks, append_assoc, cut_skip scheme]
    have here := cut_append_self [':', '/', '/'] (url.authority ++ url.tail)
    simp only [here, Option.map_some, append_nil]
  simp only [extractHost, behind, url.afterLast_stray]
  rfl

/-- Behind the last `@` of the stray text stands no bracket. -/
theorem bracket_not_mem_afterLast : '[' ∉ afterLast '@' url.stray := by
  intro member
  have inside : '[' ∈ url.stray := by
    unfold afterLast at member
    exact mem_reverse.mp ((takeWhile_subset _) (mem_reverse.mp member))
  exact url.bracket_not_mem_tail ((takeWhile_subset _) inside)

/-- With an `@` in it, the stray text decides alone. -/
theorem found_of_mem (marked : '@' ∈ url.stray) :
    url.found = before ':' (afterLast '@' url.stray) := by
  rw [found, if_pos marked, authorityHost_of_free url.bracket_not_mem_afterLast]

/-- Without an `@` in it, the stray text is a part of the host if no port and no bracket ends it. -/
theorem found_of_not_mem (unmarked : '@' ∉ url.stray) :
    url.found = url.host.address ++
      if url.port = none ∧ url.host.bracketed = false then before ':' url.stray else [] := by
  rw [found, if_neg unmarked, hostPort, append_assoc]
  cases host : url.host with
  | literal text nonempty chars =>
    have ends := authorityHost_literal chars (url.port.elim [] (':' :: ·) ++ url.stray)
    simpa [UrlHost.text, UrlHost.address, UrlHost.bracketed] using ends
  | name text nonempty chars =>
    rw [UrlHost.text, authorityHost_name nonempty chars]
    cases url.port <;> simp [before, UrlHost.address, UrlHost.bracketed]

/-- The right host is found exactly if the stray text does no harm. -/
theorem lower_found_iff : lower url.found = lower url.host.address ↔ url.Clear := by
  unfold Clear
  by_cases marked : '@' ∈ url.stray
  · have some : url.stray ≠ [] := ne_nil_of_mem marked
    simp [url.found_of_mem marked, marked, some]
  · have same (more : Text) :
        lower (url.host.address ++ more) = lower url.host.address ↔ more = [] := by
      simp [lower]
    have opens : before ':' url.stray = [] ↔ url.stray = [] := by
      rcases url.stray_opens with empty | ⟨mark, rest, is, other⟩
      · simp [empty, before]
      · simp [is, before, other]
    rw [url.found_of_not_mem marked, same]
    split_ifs with exposed
    · simp [opens, marked, exposed]
    · have ended : url.port ≠ none ∨ url.host.bracketed = true := by
        by_contra neither
        simp_all
      simp [marked, ended]

/-- What is found for a host in brackets holds no bracket. -/
theorem bracket_not_mem_found (bracketed : url.host.bracketed = true) : '[' ∉ url.found := by
  by_cases marked : '@' ∈ url.stray
  · rw [url.found_of_mem marked]
    exact fun member => url.bracket_not_mem_afterLast ((takeWhile_subset _) member)
  · rw [url.found_of_not_mem marked]
    cases host : url.host with
    | name text nonempty chars => simp [host, UrlHost.bracketed] at bracketed
    | literal text nonempty chars =>
      simpa [UrlHost.address, UrlHost.bracketed] using
        not_mem_of_all chars (by with_unfolding_all rfl : isUserChar '[' = false)

/-- A host is returned in lower case exactly if it is the one that is found. -/
theorem extractHost_eq_iff {host : Text} (nonempty : host ≠ []) :
    extractHost url.text = some (lower host) ↔ lower url.found = lower host := by
  rw [extractHost_text]
  split_ifs with missing
  · simp [missing, lower, nonempty, eq_comm]
  · simp

end HttpUrl

/-- The host of an address is the one found in it, and the one an exit node is chosen by. -/
def DecidesOn (url host : Text) : Prop :=
  extractHost url = some (lower host) ∧
    ∀ config : ExitNodeConfig, config.enabled = true → config.full = false →
      (exitNodeMatches config url = true ↔
        ∃ entry ∈ config.hosts, lower host = entry ∨ '.' :: entry <:+ lower host)

/-- What is returned for an address also chooses the exit node. -/
theorem decidesOn_iff {url host : Text} :
    DecidesOn url host ↔ extractHost url = some (lower host) := by
  refine ⟨And.left, fun found => ⟨found, fun config enabled selective => ?_⟩⟩
  simp [exitNodeMatches, found, enabled, selective, isSuffixOf_iff_suffix]

/--
The host component is found exactly if it has no brackets and no stray text does harm; without its
brackets, it is found exactly if no stray text does.
-/
theorem extractHost_of_url_iff (url : HttpUrl) :
    (DecidesOn url.text url.host.text ↔ url.host.bracketed = false ∧ url.Clear) ∧
      (DecidesOn url.text url.host.address ↔ url.Clear) := by
  have solid : url.host.address ≠ [] := by cases url.host <;> assumption
  have bare : DecidesOn url.text url.host.address ↔ url.Clear := by
    rw [decidesOn_iff, url.extractHost_eq_iff solid, url.lower_found_iff]
  refine ⟨?_, bare⟩
  cases bracketed : url.host.bracketed with
  | false =>
    have same : url.host.text = url.host.address := by
      cases host : url.host with
      | name text nonempty chars => rfl
      | literal text nonempty chars => simp [host, UrlHost.bracketed] at bracketed
    simp [same, bare]
  | true =>
    have inside : '[' ∈ lower url.host.text := by
      cases host : url.host with
      | name text nonempty chars => simp [host, UrlHost.bracketed] at bracketed
      | literal text nonempty chars => simp [UrlHost.text, lower]
    have some : url.host.text ≠ [] := by
      intro empty
      simp [empty, lower] at inside
    simp only [Bool.true_eq_false, false_and, iff_false, decidesOn_iff, url.extractHost_eq_iff some]
    intro same
    rw [← same] at inside
    obtain ⟨c, member, is⟩ := List.mem_map.mp inside
    rw [(toLower_eq_iff (by decide)).mp is] at member
    exact url.bracket_not_mem_found bracketed member

/-- An address whose query stands directly behind the host and holds an `@`. -/
def bareQuery : HttpUrl where
  scheme := lit "http"
  userinfo := none
  host := .name (lit "shop.example") (by decide +kernel) (by decide +kernel)
  port := none
  path := []
  query := some (lit "to=me@mail.example")
  fragment := none
  isScheme := by decide +kernel
  isUserinfo := by simp
  isPort := by simp
  isPath := by simp
  isQuery := by decide +kernel
  isFragment := by simp

/-- The host is taken out of the query. -/
theorem host_taken_from_query :
    bareQuery.text = lit "http://shop.example?to=me@mail.example" ∧
      extractHost bareQuery.text = some (lit "mail.example") := by
  with_unfolding_all decide

end Gvpn
