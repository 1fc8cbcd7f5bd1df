import Gvpn.Proofs.Head
import Gvpn.Proxy.Connect

/-! Which bytes behind a tunnel request its handler can read. -/

namespace Gvpn

def IsConnectHead (head : Bytes) : Prop :=
  IsHead head ∧ ∃ request, parseRequestHead head = some request ∧
    request.method = lit "CONNECT"

theorem handleHttpClient_tunnels (ctx : RewriteCtx) (peek : Peek) {stream : Segments}
    {head payload : Bytes} (connect : IsConnectHead head)
    (small : head.length ≤ maxHeaderBytes) (bytes : stream.bytes = head ++ payload) :
    ∃ host port route rest, handleHttpClient ctx [] peek stream =
      .tunnelled host port route rest := by
  obtain ⟨isHead, request, parsed, method⟩ := connect
  obtain ⟨leftover, rest, read, -⟩ := readHttpHead_of_small isHead small bytes
  have asked : eqIgnoreCase request.method (lit "CONNECT") = true := by simp [eqIgnoreCase, method]
  refine ⟨(parseHostPort request.target).1, (parseHostPort request.target).2,
    dispatchTunnel ctx (parseHostPort request.target).1 (parseHostPort request.target).2 peek rest,
    rest, ?_⟩
  simp [handleHttpClient, read, parsed, asked]

/--
The handler of a tunnel can read exactly the bytes behind the request head if and only if one of
the reads ended where the head does.
-/
theorem connect_conserves_iff (ctx : RewriteCtx) (unreachable : List (Text × Nat)) (peek : Peek)
    (stream : Segments) (head payload : Bytes) (host : Text) (port : Nat) (route : Route)
    (rest : Segments) (connect : IsConnectHead head) (bytes : stream.bytes = head ++ payload)
    (selected : handleHttpClient ctx unreachable peek stream = .tunnelled host port route rest) :
    rest.bytes = payload ↔ ∃ count, (stream.readTimes headReadSize count).1 = head := by
  have got : ∃ read leftover, readHttpHead stream = .ok (.got read leftover, rest) := by
    unfold handleHttpClient at selected
    split at selected
    · cases selected
    · cases selected
    · cases selected
    · rename_i read leftover after result
      split at selected
      · cases selected
      · split at selected
        · simp only at selected
          split at selected
          · cases selected
          · cases selected
            exact ⟨read, leftover, result⟩
        · cases selected
  obtain ⟨read, leftover, result⟩ := got
  obtain ⟨-, payloadIs, boundary⟩ := readHttpHead_got connect.1 bytes result
  rw [← boundary, payloadIs]
  constructor
  · intro same
    have length := congrArg List.length same
    rw [List.length_append] at length
    exact List.length_eq_zero_iff.mp (by omega)
  · intro nothing
    simp [nothing]

def connectHead : Bytes := toUtf8 (lit "CONNECT a:443 HTTP/1.1\r\n\r\n")

theorem isConnectHead_connectHead : IsConnectHead connectHead := by
  refine ⟨⟨toUtf8 (lit "CONNECT a:443 HTTP/1.1"), by with_unfolding_all rfl⟩, ?_⟩
  exact ⟨⟨lit "CONNECT", lit "a:443", lit "HTTP/1.1", []⟩, by with_unfolding_all rfl, rfl⟩

def directCtx : RewriteCtx :=
  { hosts := []
    upstreamSocks5 := none
    mode := .direct
    youtubeViaRelay := false
    passthroughHosts := []
    bypassDoh := false
    blockDoh := false
    bypassDohHosts := []
    frontingGroups := []
    hasFronter := false
    hasMux := false }

def hello : Bytes := [0x16, 3, 1]

theorem connect_conserves_separate :
    (⟨[hello], by decide⟩ : Segments).bytes = hello ↔
      ∃ count, ((⟨[connectHead, hello], by decide +kernel⟩ : Segments).readTimes
        headReadSize count).1 = connectHead :=
  connect_conserves_iff directCtx [] .answered ⟨[connectHead, hello], by decide +kernel⟩
    connectHead hello (lit "a") 443 (.rawTcp none) ⟨[hello], by decide⟩
    isConnectHead_connectHead (by simp [Segments.bytes]) (by decide +kernel)

theorem connect_loses_joined :
    IsConnectHead connectHead ∧
      (⟨[connectHead ++ hello], by decide +kernel⟩ : Segments).bytes = connectHead ++ hello ∧
      handleHttpClient directCtx [] .answered ⟨[connectHead ++ hello], by decide +kernel⟩ =
        .tunnelled (lit "a") 443 (.rawTcp none) .empty ∧
      Segments.empty.bytes ≠ hello := by
  refine ⟨isConnectHead_connectHead, by simp [Segments.bytes], by decide +kernel, by decide⟩

end Gvpn
