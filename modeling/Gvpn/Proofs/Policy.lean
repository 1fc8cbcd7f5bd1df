import Gvpn.Proofs.Mitm
import Gvpn.Proxy.Plain

/-! Whether what the user wants for a host depends on how a client asks for it. -/

namespace Gvpn

inductive Carrier where
  | rawTcp
  | multiplexer
  | relay
  | sniRewrite
  | mitm
  deriving DecidableEq

def Route.carriers : Route → List Carrier
  | .rawTcp _ => [.rawTcp]
  | .fullTunnel => [.multiplexer]
  | .sniRewrite _ => [.mitm, .sniRewrite]
  | .mitmRelay => [.mitm, .relay]
  | .httpRelay _ => [.relay]
  | .dropped => []

def PlainOutcome.carriers : PlainOutcome → List Carrier
  | .failed _ => []
  | .ignored => []
  | .relayed _ _ => [.relay]
  | .spliced _ _ _ _ _ => [.rawTcp]

def clientCarriers (ctx : RewriteCtx) (unreachable : List (Text × Nat)) (peek : Peek)
    (stream : Segments) : List Carrier :=
  match handleHttpClient ctx unreachable peek stream with
  | .tunnelled _ _ route _ => route.carriers
  | .plain relayed head leftover rest => (servePlain ctx relayed head leftover rest).carriers
  | _ => []

def KeepsPolicy (ctx : RewriteCtx) (host : Text) (carriers : List Carrier) : Prop :=
  if matchesPassthrough host ctx.passthroughHosts then
    .relay ∉ carriers ∧ .sniRewrite ∉ carriers ∧ .mitm ∉ carriers
  else ctx.mode = .full → ∀ carrier ∈ carriers, carrier = .multiplexer

structure RewriteCtx.Started (ctx : RewriteCtx) : Prop where
  fronter : ctx.hasFronter = decide (ctx.mode ≠ .direct)
  mux : ctx.hasMux = decide (ctx.mode = .full)

structure Address where
  secure : Bool
  host : Text
  port : Option Nat
  -- The path and what follows it.
  path : Text
  named : host ≠ []
  bounded : ∀ c ∈ host, c ≠ '/' ∧ c ≠ '?' ∧ c ≠ '#' ∧ c ≠ '@'
  bracketed : ':' ∈ host → host.head? = some '[' ∧ host.getLast? = some ']'
  portSmall : ∀ number, port = some number → number < 2 ^ 16
  rooted : path = [] ∨ path.head? = some '/'

def Address.text (address : Address) : Text :=
  (if address.secure then lit "https://" else lit "http://") ++ address.host ++
    (address.port.elim [] fun number => ':' :: decimal number) ++ address.path

structure PlainRequest extends WireRequest where
  address : Address
  plain : method = lit "GET" ∨ method = lit "POST"
  absolute : target = address.text

section

variable {ctx : RewriteCtx} {request : PlainRequest} {stream rest : Segments}

theorem handleHttpClient_plain (ctx : RewriteCtx) (unreachable : List (Text × Nat)) (peek : Peek)
    (splits : stream.Splits request.encode rest) :
    ∃ leftover after, handleHttpClient ctx unreachable peek stream =
        .plain ctx.hasFronter request.head leftover after ∧
      readBody leftover request.headers after = .ok (request.body.content, rest) := by
  obtain ⟨leftover, left, after, read, payloadIs, behind⟩ :=
    readHttpHead_splits request.isHead request.small splits
  have parsed := request.parseRequestHead_head
  have plain : eqIgnoreCase request.method (lit "CONNECT") = false := by
    rcases request.plain with get | post
    · rw [get]
      decide +kernel
    · rw [post]
      decide +kernel
  refine ⟨leftover, after, ?_, readBody_splits request.announced behind payloadIs⟩
  simp [handleHttpClient, read, parsed, plain]

theorem clientCarriers_relayed (unreachable : List (Text × Nat)) (peek : Peek)
    (splits : stream.Splits request.encode rest) (fronter : ctx.hasFronter = true) :
    clientCarriers ctx unreachable peek stream = [.relay] := by
  obtain ⟨leftover, after, handled, body⟩ :=
    handleHttpClient_plain ctx unreachable peek splits
  have parsed := request.parseRequestHead_head
  simp [clientCarriers, handled, fronter, servePlain, doPlainHttp, parsed, body,
    PlainOutcome.carriers]

theorem clientCarriers_spliced (unreachable : List (Text × Nat)) (peek : Peek)
    (splits : stream.Splits request.encode rest) (fronter : ctx.hasFronter = false) :
    ∀ carrier ∈ clientCarriers ctx unreachable peek stream, carrier = .rawTcp := by
  obtain ⟨leftover, after, handled, -⟩ :=
    handleHttpClient_plain ctx unreachable peek splits
  simp only [clientCarriers, handled, fronter, servePlain, Bool.false_eq_true, if_false,
    doPlainHttpPassthrough, request.parseRequestHead_head]
  intro carrier member
  split at member
  · simp [PlainOutcome.carriers] at member
  · simpa [PlainOutcome.carriers] using member

end

/--
A plain request keeps to what the user wants for its host exactly in direct mode, and in relay mode
for hosts that are not to be left alone.
-/
theorem plainRequest_keepsPolicy_iff (ctx : RewriteCtx) (started : ctx.Started)
    (unreachable : List (Text × Nat)) (peek : Peek) (request : PlainRequest)
    (stream rest : Segments) (splits : stream.Splits request.encode rest) :
    KeepsPolicy ctx request.address.host (clientCarriers ctx unreachable peek stream) ↔
      ctx.mode = .direct ∨
        (ctx.mode = .appsScript ∧
          matchesPassthrough request.address.host ctx.passthroughHosts = false) := by
  have fronter := started.fronter
  unfold KeepsPolicy
  cases mode : ctx.mode with
  | direct =>
    have missing : ctx.hasFronter = false := by simp [fronter, mode]
    have carriers := clientCarriers_spliced unreachable peek splits missing
    refine iff_of_true ?_ (Or.inl rfl)
    split
    · refine ⟨?_, ?_, ?_⟩
      · intro member
        cases carriers _ member
      · intro member
        cases carriers _ member
      · intro member
        cases carriers _ member
    · intro full
      cases full
  | appsScript =>
    have present : ctx.hasFronter = true := by simp [fronter, mode]
    rw [clientCarriers_relayed unreachable peek splits present]
    cases listed : matchesPassthrough request.address.host ctx.passthroughHosts <;> simp
  | full =>
    have present : ctx.hasFronter = true := by simp [fronter, mode]
    rw [clientCarriers_relayed unreachable peek splits present]
    cases listed : matchesPassthrough request.address.host ctx.passthroughHosts <;> simp

theorem rooted_slash : lit "/" = [] ∨ (lit "/").head? = some '/' := Or.inr (by decide +kernel)

def intranetAddress : Address where
  secure := false
  host := lit "intranet.example"
  port := none
  path := lit "/"
  named := by decide +kernel
  bounded := by
    have plain : (lit "intranet.example").all
        (fun c => c ≠ '/' && c ≠ '?' && c ≠ '#' && c ≠ '@') = true := by decide +kernel
    intro c member
    simpa [and_assoc] using List.all_eq_true.mp plain c member
  bracketed := by
    intro colon
    exact absurd colon (by decide +kernel)
  portSmall := by simp
  rooted := rooted_slash

def intranetRequest : PlainRequest :=
  { method := lit "GET", target := intranetAddress.text, fields := [], body := .none
    address := intranetAddress
    plain := Or.inl rfl
    absolute := rfl
    valid := isValidHttpMethod_get
    targeted := by decide +kernel
    announced := announced_nil
    small := by decide +kernel }

def listingCtx (mode : Mode) (hosts : List Text) : RewriteCtx :=
  { hosts := []
    upstreamSocks5 := none
    mode := mode
    youtubeViaRelay := false
    passthroughHosts := hosts
    bypassDoh := false
    blockDoh := false
    bypassDohHosts := []
    frontingGroups := []
    hasFronter := decide (mode ≠ .direct)
    hasMux := decide (mode = .full) }

def intranetStream : Segments := ⟨[intranetRequest.encode], by decide +kernel⟩

theorem plainRequest_keepsPolicy_unlisted :
    KeepsPolicy (listingCtx .appsScript []) intranetAddress.host
        (clientCarriers (listingCtx .appsScript []) [] .answered intranetStream) ↔
      (listingCtx .appsScript []).mode = .direct ∨
        ((listingCtx .appsScript []).mode = .appsScript ∧
          matchesPassthrough intranetAddress.host [] = false) :=
  plainRequest_keepsPolicy_iff _ ⟨rfl, rfl⟩ [] .answered intranetRequest intranetStream .empty
    ⟨[intranetRequest.encode], rfl, by simp⟩

/-- Plain requests are relayed for a listed host, and in full mode past the multiplexer. -/
theorem plainRequest_relayed :
    clientCarriers (listingCtx .appsScript [lit "intranet.example"]) [] .answered
        intranetStream = [.relay] ∧
    (dispatchTunnel (listingCtx .appsScript [lit "intranet.example"]) (lit "intranet.example") 80
        .answered .empty).carriers = [.rawTcp] ∧
    ¬ KeepsPolicy (listingCtx .appsScript [lit "intranet.example"]) intranetAddress.host
        (clientCarriers (listingCtx .appsScript [lit "intranet.example"]) [] .answered
          intranetStream) ∧
    clientCarriers (listingCtx .full []) [] .answered intranetStream = [.relay] ∧
    (dispatchTunnel (listingCtx .full []) (lit "intranet.example") 80 .answered .empty).carriers =
        [.multiplexer] ∧
    ¬ KeepsPolicy (listingCtx .full []) intranetAddress.host
        (clientCarriers (listingCtx .full []) [] .answered intranetStream) := by
  have splits : intranetStream.Splits intranetRequest.encode .empty :=
    ⟨[intranetRequest.encode], rfl, by simp⟩
  have listed : clientCarriers (listingCtx .appsScript [lit "intranet.example"]) [] .answered
      intranetStream = [.relay] := clientCarriers_relayed _ _ splits rfl
  have full : clientCarriers (listingCtx .full []) [] .answered intranetStream = [.relay] :=
    clientCarriers_relayed _ _ splits rfl
  have matched : matchesPassthrough intranetAddress.host
      (listingCtx .appsScript [lit "intranet.example"]).passthroughHosts = true := by
    decide +kernel
  refine ⟨listed, by decide +kernel, ?_, full, by decide +kernel, ?_⟩
  · intro keeps
    rw [listed] at keeps
    unfold KeepsPolicy at keeps
    rw [if_pos matched] at keeps
    exact keeps.1 (by simp)
  · intro keeps
    rw [full] at keeps
    have single := keeps rfl .relay (by simp)
    cases single

end Gvpn
