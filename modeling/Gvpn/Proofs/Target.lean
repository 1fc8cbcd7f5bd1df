import Gvpn.Proxy.Plain
import Gvpn.Proxy.Uri
import Mathlib.Data.Bool.AllAny

/-! Where a plain request goes, by the address in its first line. -/

namespace Gvpn

open List Option

variable {separator : Char} {text : Text}

theorem splitOnce_free (free : separator ∉ text) :
    splitOnce separator text = none := by
  -- A split would show the separator.
  cases found : splitOnce separator text with
  | none => rfl
  | some parts =>
    have whole := (eq_append_of_splitOnce found).1
    exact absurd (by rw [whole]; simp) free

theorem rsplitOnce_append {back : Text} (free : separator ∉ back)
    (front : Text) : rsplitOnce separator (front ++ separator :: back) = some (front, back) := by
  -- Backwards, it is the first one.
  have backwards : (front ++ separator :: back).reverse =
      back.reverse ++ separator :: front.reverse := by simp
  have split : splitOnce separator (back.reverse ++ separator :: front.reverse) =
      some (back.reverse, front.reverse) :=
    splitOnce_append (by simpa using free) front.reverse
  rw [rsplitOnce, backwards, split]
  simp

theorem eq_append_of_rsplitOnce {front back : Text}
    (split : rsplitOnce separator text = some (front, back)) :
    text = front ++ separator :: back ∧ separator ∉ back := by
  -- The text is read backwards twice.
  obtain ⟨parts, found, partsAre⟩ := Option.map_eq_some_iff.mp split
  obtain ⟨whole, free⟩ := eq_append_of_splitOnce found
  rw [Prod.mk.injEq] at partsAre
  have forwards := congrArg List.reverse whole
  rw [reverse_reverse] at forwards
  rw [forwards, ← partsAre.1, ← partsAre.2]
  exact ⟨by simp, by simpa using free⟩

theorem isDigit_of_parseUnsigned {bound number : Nat}
    (parsed : parseUnsigned bound text = some number) {c : Char} (member : c ∈ text) :
    c = '+' ∨ c.isDigit = true := by
  have digits : ∀ digit ∈ dropPlus text, digit.isDigit = true := by
    simp only [parseUnsigned, ite_none_right_eq_some] at parsed
    exact fun digit inside => List.all_eq_true.mp parsed.1.2.1 digit inside
  unfold dropPlus at digits
  split at digits
  · rcases List.mem_cons.mp member with rfl | later
    · exact .inl rfl
    · exact .inr (digits c later)
  · exact .inr (digits c member)

theorem mem_splitAuthority {authority : Text} {mark : Char} (defaultPort : Nat)
    (member : mark ∈ authority) (other : mark ≠ ':' ∧ mark ≠ '+' ∧ mark.isDigit = false) :
    mark ∈ (splitAuthority authority defaultPort).1 := by
  -- Either nothing is split off, or digits are.
  unfold splitAuthority
  split
  · exact member
  · split
    · rename_i host port split
      split
      · rename_i number parsed
        have whole := (eq_append_of_rsplitOnce split).1
        rw [whole, mem_append, mem_cons] at member
        rcases member with inHost | isColon | inPort
        · exact inHost
        · exact absurd isColon other.1
        · rcases isDigit_of_parseUnsigned parsed inPort with isPlus | isDigit
          · exact absurd isPlus other.2.1
          · simp [other.2.2] at isDigit
      · exact member
    · exact member

theorem isPrefix_splitPath {front : Text} (free : '/' ∉ front) (back : Text) :
    front <+: (splitPath (front ++ back)).1 := by
  unfold splitPath
  by_cases slashed : '/' ∈ back
  · obtain ⟨left, right, rfl, absent⟩ := eq_append_cons_of_mem slashed
    have clear : '/' ∉ front ++ left := by
      rw [mem_append, not_or]
      exact ⟨free, absent⟩
    rw [← append_assoc, splitOnce_append clear]
    exact prefix_append _ _
  · have clear : '/' ∉ front ++ back := by
      rw [mem_append, not_or]
      exact ⟨free, slashed⟩
    rw [splitOnce_free clear]
    exact prefix_append _ _

namespace UriHost

variable (host : UriHost)

theorem plain_text : ∀ c ∈ host.text, c ∉ ['/', '?', '#', '@'] := by
  intro c member mark
  cases host with
  | name letters named plain =>
    have other := plain c member
    simp only [mem_cons, not_mem_nil, or_false, not_or] at mark other
    tauto
  | ipv6 address plain =>
    rw [text, mem_cons, mem_append, mem_singleton] at member
    rcases member with rfl | inside | rfl
    · exact absurd mark (by decide)
    · have other := plain c inside
      simp only [mem_cons, not_mem_nil, or_false, not_or] at mark other
      tauto
    · exact absurd mark (by decide)

theorem text_ne_nil : host.text ≠ [] := by
  cases host with
  | name letters named plain => exact named
  | ipv6 address plain => simp [text]

theorem not_bare {port : Text} (digits : ':' ∉ port) :
    ¬ (1 < (host.text ++ ':' :: port).count ':' ∧
      (host.text ++ ':' :: port).head? ≠ some '[') := by
  rintro ⟨many, unbracketed⟩
  cases host with
  | name letters named plain =>
    have free : ':' ∉ letters := fun member => plain ':' member (by decide)
    rw [text, count_append, count_cons_self, count_eq_zero_of_not_mem free,
      count_eq_zero_of_not_mem digits] at many
    omega
  | ipv6 address plain => simp [text] at unbracketed

theorem splitAuthority_port {port : Text} (some_ : port ≠ [])
    (digits : port.all Char.isDigit = true) (small : readDigits port < 2 ^ 16) (defaultPort : Nat) :
    splitAuthority (host.text ++ ':' :: port) defaultPort = (host.text, readDigits port) := by
  -- The colon of the port is the last one.
  have free : ':' ∉ port := fun member =>
    absurd (List.all_eq_true.mp digits ':' member) (by decide)
  rw [splitAuthority, if_neg (host.not_bare free)]
  simp only [rsplitOnce_append free, parseUnsigned_digits some_ digits small]

theorem splitAuthority_bare (defaultPort : Nat) :
    splitAuthority host.text defaultPort = (host.text, defaultPort) := by
  unfold splitAuthority
  split
  · rfl
  · split
    · rename_i front back split
      obtain ⟨whole, free⟩ := eq_append_of_rsplitOnce split
      have unread : parseUnsigned (2 ^ 16) back = none := by
        cases parsed : parseUnsigned (2 ^ 16) back with
        | none => rfl
        | some number =>
          cases host with
          | name letters named plain =>
            have colon : ':' ∈ letters := by
              change letters = _ at whole
              rw [whole]
              simp
            exact absurd (plain ':' colon) (by decide)
          | ipv6 address plain =>
            have closing : ']' ∈ back := by
              have ends := congrArg List.getLast? whole
              have last : (UriHost.ipv6 address plain).text.getLast? = some ']' := by
                rw [text, ← cons_append, getLast?_concat]
              rw [last] at ends
              cases back with
              | nil => simp at ends
              | cons first rest =>
                rw [getLast?_append_of_ne_nil _ (by simp),
                  getLast?_cons_cons] at ends
                exact mem_of_getLast? ends.symm
            rcases isDigit_of_parseUnsigned parsed closing with isPlus | isDigit
            · exact absurd isPlus (by decide)
            · exact absurd isDigit (by decide)
      simp only [unread]
    · rfl

end UriHost

namespace AbsoluteUri

variable (uri : AbsoluteUri)

theorem slash_free : '/' ∉ uri.authority := by
  intro member
  simp only [authority, mem_append] at member
  rcases member with (inUser | inHost) | inPort
  · cases info : uri.userinfo with
    | none => simp [info] at inUser
    | some letters =>
      rw [info, elim_some, mem_append, mem_singleton] at inUser
      rcases inUser with inside | mark
      · exact uri.user letters info '/' inside (by decide)
      · exact absurd mark (by decide)
  · exact uri.host.plain_text '/' inHost (by decide)
  · cases port : uri.port with
    | none => simp [port] at inPort
    | some digits =>
      rw [port, elim_some, mem_cons] at inPort
      rcases inPort with mark | inside
      · exact absurd mark (by decide)
      · have each := (uri.numbered digits port).2.1
        exact absurd (List.all_eq_true.mp each '/' inside) (by decide)

theorem splitPath_rest (shown : uri.path ≠ [] ∨ uri.query = none) :
    splitPath (uri.authority ++ uri.path ++ uri.queryText) = (uri.authority, uri.originForm) := by
  rcases uri.rooted with bare | rooted
  · -- Without a path and a query there is nothing behind the authority.
    have unasked : uri.query = none := shown.resolve_left fun some_ => some_ bare
    rw [splitPath, queryText, bare, unasked, append_nil, elim_none, append_nil,
      splitOnce_free uri.slash_free]
    simp only [originForm, queryText, bare, unasked, if_true, elim_none, append_nil,
      Prod.mk.injEq, true_and]
    with_unfolding_all rfl
  · cases parts : uri.path with
    | nil => simp [parts] at rooted
    | cons first rest =>
      rw [parts, head?_cons, some.injEq] at rooted
      subst rooted
      rw [splitPath, append_assoc, cons_append, splitOnce_append uri.slash_free]
      simp [originForm, parts]

theorem splitPath_ne (bare : uri.path = []) {query : Text} (asked : uri.query = some query) :
    (splitPath (uri.authority ++ uri.path ++ uri.queryText)).2 ≠ uri.originForm := by
  have form : uri.originForm = '/' :: '?' :: query := by
    simp [originForm, queryText, bare, asked]
  rw [bare, append_nil, queryText, asked, elim_some, form]
  unfold splitPath
  by_cases slashed : '/' ∈ query
  · -- The path starts inside the query, so that its question mark is missing.
    obtain ⟨left, right, rfl, absent⟩ := eq_append_cons_of_mem slashed
    have clear : '/' ∉ uri.authority ++ '?' :: left := by
      rw [mem_append, mem_cons, not_or, not_or]
      exact ⟨uri.slash_free, by decide, absent⟩
    have regrouped : uri.authority ++ '?' :: (left ++ '/' :: right) =
        (uri.authority ++ '?' :: left) ++ '/' :: right := by simp
    rw [regrouped, splitOnce_append clear]
    intro same
    have lengths := congrArg List.length same
    simp only [length_cons, length_append] at lengths
    omega
  · have clear : '/' ∉ uri.authority ++ '?' :: query := by
      rw [mem_append, mem_cons, not_or, not_or]
      exact ⟨uri.slash_free, by decide, slashed⟩
    rw [splitOnce_free clear]
    intro same
    have lengths := congrArg List.length same
    have slash : (lit "/").length = 1 := by with_unfolding_all rfl
    simp only [slash, length_cons] at lengths
    omega

theorem splitAuthority_eq (anonymous : uri.userinfo = none) (defaultPort : Nat) :
    splitAuthority uri.authority defaultPort =
      (uri.host.text, uri.port.elim defaultPort readDigits) := by
  unfold authority
  cases port : uri.port with
  | none => simpa [anonymous] using uri.host.splitAuthority_bare defaultPort
  | some digits =>
    obtain ⟨some_, each, small⟩ := uri.numbered digits port
    simpa [anonymous] using uri.host.splitAuthority_port some_ each small defaultPort

theorem splitAuthority_ne {letters : Text} (info : uri.userinfo = some letters) (back : Text)
    (defaultPort : Nat) :
    (splitAuthority (splitPath (uri.authority ++ back)).1 defaultPort).1 ≠ uri.host.text := by
  intro same
  have inside : '@' ∈ uri.authority := by simp [authority, info]
  have kept := mem_splitAuthority defaultPort
    ((isPrefix_splitPath uri.slash_free back).subset inside) (by decide)
  rw [same] at kept
  exact uri.host.plain_text '@' kept (by decide)

def defaultPort (uri : AbsoluteUri) : Nat := if lower uri.scheme = lit "https" then 443 else 80

theorem resolve_of_small (small : lower uri.scheme = uri.scheme) (headers : List (Text × Text)) :
    resolvePlainHttpTarget uri.text headers =
      resolvePlainHttpTarget.absolute (uri.authority ++ uri.path ++ uri.queryText)
        uri.defaultPort := by
  have shape : uri.text = uri.scheme ++ lit "://" ++ (uri.authority ++ uri.path ++ uri.queryText) := by
    simp [text]
  have known := uri.known
  rw [small] at known
  rw [shape]
  rcases known with http | https
  · -- The first of the two schemes is stripped.
    have opens : lit "http" ++ lit "://" = lit "http://" := by with_unfolding_all rfl
    have port : uri.defaultPort = 80 := by
      rw [defaultPort, small, http]
      with_unfolding_all rfl
    rw [resolvePlainHttpTarget, http, opens, stripStart_eq_some_iff.mpr rfl, port]
  · have opens : lit "https" ++ lit "://" = lit "https://" := by with_unfolding_all rfl
    have port : uri.defaultPort = 443 := by
      rw [defaultPort, small, https]
      with_unfolding_all rfl
    rw [resolvePlainHttpTarget, https, opens, (stripStart_schemes _).2,
      stripStart_eq_some_iff.mpr rfl, port]

theorem small_of_strip {start scheme back rest : Text} (small : lower start = start)
    (longer : scheme.length ≤ start.length)
    (stripped : stripStart start (scheme ++ back) = some rest) : lower scheme = scheme := by
  have begins : scheme <+: start := prefix_of_prefix_length_le (prefix_append _ _)
    ⟨rest, (stripStart_eq_some_iff.mp stripped).symm⟩ longer
  obtain ⟨more, whole⟩ := begins
  rw [← whole, lower, map_append] at small
  exact (append_inj small (by simp)).1

theorem resolve_of_capital (capital : lower uri.scheme ≠ uri.scheme)
    (headers : List (Text × Text)) : resolvePlainHttpTarget uri.text headers = none := by
  have shape : uri.text =
      uri.scheme ++ (lit "://" ++ (uri.authority ++ uri.path ++ uri.queryText)) := by simp [text]
  have lengths : uri.scheme.length = (lower uri.scheme).length := by simp [lower]
  have short : uri.scheme.length ≤ (lit "http://").length ∧
      uri.scheme.length ≤ (lit "https://").length := by
    rw [lengths]
    rcases uri.known with http | https
    · rw [http]
      with_unfolding_all decide
    · rw [https]
      with_unfolding_all decide
  have first : stripStart (lit "http://") uri.text = none := by
    cases stripped : stripStart (lit "http://") uri.text with
    | none => rfl
    | some rest =>
      rw [shape] at stripped
      exact absurd (small_of_strip (by with_unfolding_all rfl) short.1 stripped) capital
  have second : stripStart (lit "https://") uri.text = none := by
    cases stripped : stripStart (lit "https://") uri.text with
    | none => rfl
    | some rest =>
      rw [shape] at stripped
      exact absurd (small_of_strip (by with_unfolding_all rfl) short.2 stripped) capital
  have letter : uri.text.head? ≠ some '/' := by
    intro opens
    cases letters : uri.scheme with
    | nil =>
      have known := uri.known
      rw [letters] at known
      exact absurd known (by with_unfolding_all decide)
    | cons c more =>
      rw [shape, letters, cons_append, head?_cons, some.injEq] at opens
      have known := uri.known
      have http : lit "http" = ['h', 't', 't', 'p'] := by with_unfolding_all rfl
      have https : lit "https" = ['h', 't', 't', 'p', 's'] := by with_unfolding_all rfl
      rw [letters, opens, http, https] at known
      simp [lower] at known
  rw [resolvePlainHttpTarget, first, second]
  simp [letter]

theorem plain_of_resolve {uri : AbsoluteUri} {headers : List (Text × Text)}
    (resolved : resolvePlainHttpTarget uri.text headers =
      some (uri.host.text, uri.portNumber, uri.originForm)) :
    lower uri.scheme = uri.scheme ∧ uri.userinfo = none ∧
      (uri.path ≠ [] ∨ uri.query = none) := by
  by_cases small : lower uri.scheme = uri.scheme
  · rw [uri.resolve_of_small small, resolvePlainHttpTarget.absolute] at resolved
    simp only [ite_none_left_eq_some, some.injEq, Prod.mk.injEq] at resolved
    refine ⟨small, ?_, ?_⟩
    · cases info : uri.userinfo with
      | none => rfl
      | some letters =>
        -- A user would stay with the host.
        have other := uri.splitAuthority_ne info (uri.path ++ uri.queryText) uri.defaultPort
        rw [← append_assoc] at other
        exact absurd resolved.2.1 other
    · by_contra hidden
      rw [not_or, not_not] at hidden
      obtain ⟨query, asked⟩ := Option.ne_none_iff_exists'.mp hidden.2
      exact absurd resolved.2.2.2 (uri.splitPath_ne hidden.1 asked)
  · -- A capital letter in the scheme is not understood at all.
    rw [uri.resolve_of_capital small] at resolved
    simp at resolved

theorem resolve_of_plain {uri : AbsoluteUri} (small : lower uri.scheme = uri.scheme)
    (anonymous : uri.userinfo = none) (shown : uri.path ≠ [] ∨ uri.query = none)
    (headers : List (Text × Text)) :
    resolvePlainHttpTarget uri.text headers =
      some (uri.host.text, uri.portNumber, uri.originForm) := by
  have some_ : uri.authority ≠ [] := by
    simp [authority, uri.host.text_ne_nil]
  have port : uri.portNumber = uri.port.elim uri.defaultPort readDigits := by
    unfold portNumber defaultPort
    cases uri.port <;> rfl
  rw [uri.resolve_of_small small, resolvePlainHttpTarget.absolute]
  simp only [uri.splitPath_rest shown, uri.splitAuthority_eq anonymous, some_, if_false, port]

/--
The target is found exactly where only host, port, path and query are written, with a small scheme,
no user, and a path before a query.
-/
theorem resolve_plain_http_target_iff (uri : AbsoluteUri) (headers : List (Text × Text)) :
    resolvePlainHttpTarget uri.text headers =
        some (uri.host.text, uri.portNumber, uri.originForm) ↔
      lower uri.scheme = uri.scheme ∧ uri.userinfo = none ∧
        (uri.path ≠ [] ∨ uri.query = none) := by
  constructor
  · exact plain_of_resolve
  · rintro ⟨small, anonymous, shown⟩
    exact resolve_of_plain small anonymous shown headers

theorem known_http : lower (lit "http") = lit "http" ∨ lower (lit "http") = lit "https" :=
  Or.inl (by with_unfolding_all rfl)

def signedIn : AbsoluteUri where
  scheme := lit "http"
  userinfo := some (lit "anna")
  host := .name (lit "example.com") (by decide +kernel)
    (List.all_iff_forall_prop.mp (by decide +kernel))
  port := some (lit "8080")
  path := []
  query := some (lit "q=1")
  known := known_http
  user := by
    rintro letters same
    cases same
    exact List.all_iff_forall_prop.mp (by decide +kernel)
  numbered := by
    rintro digits same
    cases same
    decide +kernel
  rooted := Or.inl rfl
  unasked := by simp

theorem signed_in_is_misread :
    signedIn.text = lit "http://anna@example.com:8080?q=1" ∧
      (signedIn.host.text, signedIn.portNumber, signedIn.originForm) =
        (lit "example.com", 8080, lit "/?q=1") ∧
      resolvePlainHttpTarget signedIn.text [] =
        some (lit "anna@example.com:8080?q=1", 80, lit "/") := by
  with_unfolding_all decide

end AbsoluteUri

end Gvpn
