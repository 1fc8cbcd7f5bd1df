import Gvpn.Proofs.Sharing
import Gvpn.Proofs.UrlHost

/-! What is left of addresses of one graph interface, and which share a key. -/

namespace Gvpn

open List

structure XGraphqlUrl where
  scheme : Text
  isScheme : scheme = lit "https://" ∨ scheme = lit "http://"
  -- The host with its port, if it has one.
  host : Text
  isHost : host = lit "x.com" ∨ ∃ port, host = lit "x.com" ++ ':' :: port
  hostFree : '/' ∉ host
  path : Text
  isPath : lit "/i/api/graphql/" <+: path
  pathFree : '?' ∉ path
  query : Text
  isQuery : lit "variables=" <+: query

namespace XGraphqlUrl

def front (url : XGraphqlUrl) : Text := url.scheme ++ url.host ++ url.path ++ ['?']

def text (url : XGraphqlUrl) : Text := url.front ++ url.query

end XGraphqlUrl

theorem before_host {host : Text} : before ':' host = lit "x.com" ↔
    host = lit "x.com" ∨ ∃ port, host = lit "x.com" ++ ':' :: port := by
  have free : ':' ∉ lit "x.com" := by with_unfolding_all decide
  constructor
  · intro is
    have whole : before ':' host ++ host.dropWhile (· ≠ ':') = host := takeWhile_append_dropWhile
    rw [is] at whole
    cases rest : host.dropWhile (· ≠ ':') with
    | nil => exact .inl (by rw [← whole, rest, append_nil])
    | cons mark port =>
      have first := head?_dropWhile_not (fun c => decide (c ≠ ':')) host
      rw [rest] at first whole
      simp only [head?_cons, decide_not, Bool.not_eq_eq_eq_not, Bool.not_false, decide_eq_true_eq]
        at first
      exact .inr ⟨port, by rw [← whole, first]⟩
  · rintro (rfl | ⟨port, rfl⟩)
    · simpa [before] using before_append free []
    · rw [before_append free, before, takeWhile_cons_of_neg (by simp), append_nil]

theorem XGraphqlUrl.normalize_text (url : XGraphqlUrl) :
    normalizeXGraphqlUrl url.text = url.front ++ before '&' url.query := by
  have whole : url.text = url.scheme ++ (url.host ++ (url.path ++ '?' :: url.query)) := by
    simp [text, front]
  have scheme : (if (stripStart (lit "https://") url.text).isSome then lit "https://"
      else lit "http://") = url.scheme := by
    rw [whole]
    rcases url.isScheme with is | is
    · rw [is, stripStart_eq_some_iff.mpr rfl]
      rfl
    · rw [is, (stripStart_schemes _).1]
      rfl
  have host : before '/' (url.host ++ (url.path ++ '?' :: url.query)) = url.host := by
    obtain ⟨more, path⟩ := url.isPath
    have slash : lit "/i/api/graphql/" = '/' :: lit "i/api/graphql/" := by with_unfolding_all rfl
    rw [before_append url.hostFree, ← path, slash]
    simp [before]
  rw [normalizeXGraphqlUrl, scheme, stripStart_eq_some_iff.mpr whole]
  simp only [host, drop_left, splitOnce_append url.pathFree]
  rw [if_pos ⟨before_host.mpr url.isHost, url.isPath, url.isQuery⟩]
  simp [front]

theorem exists_parts_of_normalize_ne {url : Text} (changed : normalizeXGraphqlUrl url ≠ url) :
    ∃ parts : XGraphqlUrl, url = parts.text := by
  unfold normalizeXGraphqlUrl at changed
  set scheme := if (stripStart (lit "https://") url).isSome then lit "https://" else lit "http://"
    with schemeIs
  dsimp only at changed
  split at changed
  · exact absurd rfl changed
  · rename_i rest stripped
    split at changed
    · exact absurd rfl changed
    · rename_i path query found
      split at changed
      · rename_i known
        have behind : before '/' rest ++ rest.drop (before '/' rest).length = rest :=
          List.prefix_iff_eq_append.mp (List.takeWhile_prefix _)
        obtain ⟨split, pathFree⟩ := eq_append_of_splitOnce found
        have isScheme : scheme = lit "https://" ∨ scheme = lit "http://" := by
          rw [schemeIs]
          split
          · exact .inl rfl
          · exact .inr rfl
        have hostFree : '/' ∉ before '/' rest := by
          intro slash
          simpa using mem_takeWhile_imp slash
        refine ⟨⟨scheme, isScheme, before '/' rest, before_host.mp known.1, hostFree, path,
          known.2.1, pathFree, query, known.2.2⟩, ?_⟩
        rw [split] at behind
        rw [stripStart_eq_some_iff.mp stripped]
        simpa [XGraphqlUrl.text, XGraphqlUrl.front] using behind.symm
      · exact absurd rfl changed

theorem normalize_prefix_url (url : Text) : normalizeXGraphqlUrl url <+: url := by
  by_cases same : normalizeXGraphqlUrl url = url
  · rw [same]
  · obtain ⟨parts, rfl⟩ := exists_parts_of_normalize_ne same
    rw [parts.normalize_text]
    exact (prefix_append_right_inj _).mpr (List.takeWhile_prefix _)

def XGraphqlUrl.trimmed (url : XGraphqlUrl) : XGraphqlUrl :=
  { url with
    query := before '&' url.query
    isQuery := by
      obtain ⟨more, query⟩ := url.isQuery
      rw [← query, before_append (by with_unfolding_all decide)]
      exact prefix_append _ _ }

/--
Normalising twice changes nothing more, and only cuts addresses of one graph interface in front of
the first mark of the query.
-/
theorem normalizeXGraphqlUrl_law (url : Text) :
    normalizeXGraphqlUrl (normalizeXGraphqlUrl url) = normalizeXGraphqlUrl url ∧
      ((∀ parts : XGraphqlUrl, url ≠ parts.text) → normalizeXGraphqlUrl url = url) ∧
      (∀ parts : XGraphqlUrl, url = parts.text →
        normalizeXGraphqlUrl url = parts.front ++ parts.query.takeWhile (· ≠ '&')) ∧
      ∀ (config : RelayConfig) (first second : RelayRequest) (key : Text),
        config.normalizeXGraphql = true →
        first.key config = some key → second.key config = some key →
        ∃ common, common <+: first.url ∧ common <+: second.url ∧
          normalizeXGraphqlUrl first.url = common ∧ normalizeXGraphqlUrl second.url = common := by
  refine ⟨?_, fun other => ?_, ?_, ?_⟩
  · by_cases same : normalizeXGraphqlUrl url = url
    · rw [same, same]
    · obtain ⟨parts, rfl⟩ := exists_parts_of_normalize_ne same
      have again : parts.front ++ before '&' parts.query = parts.trimmed.text := rfl
      rw [parts.normalize_text, again, parts.trimmed.normalize_text, ← again]
      show parts.front ++ before '&' (before '&' parts.query) = _
      unfold before
      rw [takeWhile_idem]
  · by_contra changed
    obtain ⟨parts, is⟩ := exists_parts_of_normalize_ne changed
    exact other parts is
  · rintro parts rfl
    exact parts.normalize_text
  · intro config first second key normalizes firstKey secondKey
    have same := (eq_of_key firstKey secondKey).2
    simp only [relayUrl, normalizes, if_true] at same
    exact ⟨_, normalize_prefix_url first.url, same ▸ normalize_prefix_url second.url, rfl, same.symm⟩

def trendsUrl : XGraphqlUrl where
  scheme := lit "https://"
  isScheme := .inl rfl
  host := lit "x.com"
  isHost := .inl rfl
  hostFree := by with_unfolding_all decide
  path := lit "/i/api/graphql/t"
  isPath := ⟨['t'], by with_unfolding_all rfl⟩
  pathFree := by with_unfolding_all decide
  query := lit "variables=1&features=2"
  isQuery := ⟨lit "1&features=2", by with_unfolding_all rfl⟩

theorem normalize_trendsUrl : normalizeXGraphqlUrl trendsUrl.text =
    trendsUrl.front ++ lit "variables=1" :=
  ((normalizeXGraphqlUrl_law trendsUrl.text).2.2.1 trendsUrl rfl).trans
    (congrArg (trendsUrl.front ++ ·) (by with_unfolding_all rfl))

end Gvpn
