import Gvpn.AppsScript.SheetCache

/-! What is fetched for the cache, and what a request asks for. -/

namespace Gvpn

/-- The address that is asked for: the service escapes reserved characters unless told not to. -/
def FetchOptions.asked (escape : Text → Text) (url : Text) (opts : FetchOptions) : Text :=
  if opts.escaping then escape url else url

/-- Two fetches ask for the same address in the same way, with the same header fields. -/
def SameFetch (escape : Text → Text) (url : Text) (opts other : FetchOptions) : Prop :=
  opts.asked escape url = other.asked escape url ∧ opts.method = other.method ∧
    opts.headers.getD [] = other.headers.getD [] ∧ opts.followRedirects = other.followRedirects

/-- Every header field of a request is one of those that are not passed on. -/
def PassesNothing (engine : Engine) (req : Json) : Prop :=
  ∀ fields, (req.get (lit "h")).filter isObject = some fields →
    ∀ field ∈ ownEntries fields, tableHas skipHeaders (engine.toLowerCase field.1) = true

/-- A plain GET is fetched as such. -/
theorem requestMethod_of_isPlainGet {engine : Engine} {req : Json}
    (plain : isPlainGet engine req = true) : requestMethod engine req = .ok (lit "GET") := by
  unfold isPlainGet at plain
  unfold requestMethod
  cases named : engine.member req (lit "m") with
  | none => rfl
  | some value =>
    rw [named] at plain
    cases value with
    | str method => exact congrArg Except.ok (of_decide_eq_true plain)
    | _ => cases plain

/-- What lets a request take the cache path. -/
theorem facts_of_canUseCache {engine : Engine} {configured : Bool} {req : Json}
    (may : canUseCache engine configured req = .ok true) :
    isPlainGet engine req = true ∧ engine.member req (lit "b") = none ∧
      (∃ url, req.get (lit "u") = some (.str url)) ∧ mayShare engine req = .ok true := by
  unfold canUseCache at may
  split at may
  · cases may
  · rename_i plain
    split at may
    · cases may
    · rename_i noBody
      split at may
      · cases may
      · rename_i url given
        split at may
        · exact ⟨not_not.mp plain, Option.not_isSome_iff_eq_none.mp noBody,
            ⟨url, (Option.filter_eq_some_iff.mp given).1⟩, may⟩
        · cases may
      · cases may

/-- The header fields that are passed on are those that are not skipped. -/
theorem headers_of_buildOpts {engine : Engine} {req : Json}
    (plain : isPlainGet engine req = true) (noBody : engine.member req (lit "b") = none)
    (shared : mayShare engine req = .ok true) :
    ∃ opts, buildOpts engine req = .ok opts ∧ opts.method = engine.toLowerCase (lit "GET") ∧
      opts.followRedirects = buildOpts.followsRedirects req ∧ opts.escaping = false ∧
      (opts.headers.getD [] = [] ↔ PassesNothing engine req) := by
  rw [buildOpts, requestMethod_of_isPlainGet plain, noBody]
  unfold mayShare at shared
  split at shared
  · rename_i absent
    rw [absent]
    exact ⟨_, rfl, rfl, rfl, rfl, by simp [PassesNothing, absent]⟩
  · rename_i fields given
    split at shared
    · cases shared
    · rename_i free
      rw [given]
      refine ⟨_, congrArg (fun passed => Except.map some passed >>= _) (if_neg free),
        rfl, rfl, rfl, ?_⟩
      simp [PassesNothing, given, List.filter_eq_nil_iff]

/--
A request that may be answered from the cache is fetched for the cache as it is relayed exactly if
none of its header fields is passed on, redirects are followed and nothing in its address would be
escaped.
-/
theorem cache_fetch_same_iff (engine : Engine) (escape : Text → Text) (configured : Bool)
    (req : Json) (small : engine.toLowerCase (lit "GET") = lit "get")
    (may : canUseCache engine configured req = .ok true) :
    ∃ url opts, req.get (lit "u") = some (.str url) ∧ buildOpts engine req = .ok opts ∧
      (SameFetch escape url opts cacheFetchOptions ↔
        PassesNothing engine req ∧ req.get (lit "r") ≠ some (.bool false) ∧ escape url = url) := by
  obtain ⟨plain, noBody, ⟨url, given⟩, shared⟩ := facts_of_canUseCache may
  obtain ⟨opts, built, method, redirects, escaping, headers⟩ :=
    headers_of_buildOpts plain noBody shared
  refine ⟨url, opts, given, built, ?_⟩
  have follows : buildOpts.followsRedirects req = true ↔
      req.get (lit "r") ≠ some (.bool false) := by
    unfold buildOpts.followsRedirects
    split <;> simp_all
  rw [← follows, ← headers]
  simp only [SameFetch, FetchOptions.asked, cacheFetchOptions, escaping, method, small, redirects]
  constructor
  · rintro ⟨address, -, nothing, followed⟩
    exact ⟨nothing, followed, address.symm⟩
  · rintro ⟨nothing, followed, address⟩
    exact ⟨address.symm, trivial, nothing, followed⟩

/-- A request whose only header field is skipped. -/
def hostRequest : Json :=
  .obj [(lit "u", .str (lit "http://a/")), (lit "h", .obj [(lit "Host", .str (lit "a"))])]

/-- It is fetched for the cache as it would be relayed, since nothing in its address is escaped. -/
theorem cache_fetch_same_iff_host :
    ∃ opts, buildOpts plainEngine hostRequest = .ok opts ∧
      SameFetch id (lit "http://a/") opts cacheFetchOptions := by
  obtain ⟨url, opts, given, built, same⟩ := cache_fetch_same_iff plainEngine id true hostRequest
    (by with_unfolding_all rfl) (by with_unfolding_all rfl)
  have address : Json.get (lit "u") hostRequest = some (.str (lit "http://a/")) := by
    with_unfolding_all rfl
  have redirects : Json.get (lit "r") hostRequest = none := by with_unfolding_all rfl
  cases address.symm.trans given
  refine ⟨opts, built, same.mpr ⟨?_, by simp [redirects], rfl⟩⟩
  intro fields is
  have only : (Json.get (lit "h") hostRequest).filter isObject =
      some (.obj [(lit "Host", .str (lit "a"))]) := by with_unfolding_all rfl
  cases only.symm.trans is
  with_unfolding_all decide

/-- A request for a page in a language. -/
def germanRequest : Json :=
  .obj [(lit "u", .str (lit "http://a/")),
    (lit "h", .obj [(lit "Accept-Language", .str (lit "de"))])]

/-- The language is relayed, and not asked for by the fetch for the cache. -/
theorem language_not_fetched :
    (canUseCache plainEngine true germanRequest).toOption = some true ∧
      ((buildOpts plainEngine germanRequest).toOption.bind FetchOptions.headers).map
        (List.map Prod.fst) = some [lit "Accept-Language"] ∧
      cacheFetchOptions.headers.map (List.map Prod.fst) = none := by
  decide +kernel

end Gvpn
