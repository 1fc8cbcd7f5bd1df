import Gvpn.Proofs.Connect
import Gvpn.Proofs.HeadLimit
import Gvpn.Proofs.Mitm
import Gvpn.Proofs.Target

/-! What the origin of a plain request is sent where there is no relay. -/

namespace Gvpn

open List Option

structure AbsoluteRequest where
  method : Text
  uri : AbsoluteUri
  version : Text
  fields : List FieldLine
  body : WireBody
  methodFree : ' ' ∉ method ∧ '\r' ∉ method
  uriFree : ' ' ∉ uri.text ∧ '\r' ∉ uri.text
  versionFree : '\r' ∉ version
  announced : body.Announced (fields.map FieldLine.field)

def hopByHopFields : List Text :=
  [lit "connection", lit "keep-alive", lit "proxy-connection", lit "proxy-authorization",
    lit "te", lit "upgrade"]

def isHopByHop (headers : List (Text × Text)) (name : Text) : Bool :=
  lower name ∈ hopByHopFields ||
    headers.any fun field => lower field.1 = lit "connection" && listHas name field.2

def closingHead (line : Text) (headers : List (Text × Text)) : Text :=
  line ++ ['\r', '\n'] ++
    headers.flatMap (fun field => field.1 ++ lit ": " ++ field.2 ++ ['\r', '\n']) ++
    lit "Connection: close\r\n\r\n"

namespace AbsoluteRequest

def headers (request : AbsoluteRequest) : List (Text × Text) := request.fields.map FieldLine.field

def head (request : AbsoluteRequest) : Bytes :=
  toUtf8 (versionedHead request.method request.uri.text request.version request.fields)

def encode (request : AbsoluteRequest) : Bytes := request.head ++ request.body.encode

def endToEnd (request : AbsoluteRequest) : List (Text × Text) :=
  request.headers.filter fun field => !isHopByHop request.headers field.1

def forOrigin (request : AbsoluteRequest) : Text × Nat × Bytes :=
  (request.uri.host.text, request.uri.portNumber,
    toUtf8 (closingHead (versionedLine request.method request.uri.originForm request.version)
      request.endToEnd) ++ request.body.encode)

end AbsoluteRequest

def sentToOrigin (ctx : RewriteCtx) (unreachable : List (Text × Nat)) (peek : Peek)
    (stream : Segments) : Option (Text × Nat × Bytes) :=
  match handleHttpClient ctx unreachable peek stream with
  | .plain relayed head leftover rest =>
    match servePlain ctx relayed head leftover rest with
    | .spliced _ host port sent later => some (host, port, sent ++ later.bytes)
    | _ => none
  | _ => none

theorem originHead_eq (request : RequestHead) (path : Text) :
    originHead request path =
      closingHead (versionedLine request.method path request.version)
        (request.headers.filter fun field => !decide (lower field.1 ∈ hopFields)) := by
  -- A field that is passed over leaves no line.
  have lines : ∀ headers : List (Text × Text),
      (headers.flatMap fun field => if lower field.1 ∈ hopFields then []
        else field.1 ++ lit ": " ++ field.2 ++ ['\r', '\n']) =
      (headers.filter fun field => !decide (lower field.1 ∈ hopFields)).flatMap
        fun field => field.1 ++ lit ": " ++ field.2 ++ ['\r', '\n'] := by
    intro headers
    induction headers with
    | nil => rfl
    | cons field rest ih =>
      by_cases hop : lower field.1 ∈ hopFields
      · rw [flatMap_cons, if_pos hop, ih, nil_append,
          filter_cons_of_neg (by simp [hop])]
      · rw [flatMap_cons, if_neg hop, ih, filter_cons_of_pos (by simp [hop]),
          flatMap_cons]
  rw [originHead, lines, closingHead, versionedLine]
  simp

def PlainField (field : Text × Text) : Prop := '\r' ∉ field.1 ∧ '\r' ∉ field.2

theorem AbsoluteRequest.plainField {request : AbsoluteRequest} {field : Text × Text}
    (member : field ∈ request.headers) : PlainField field := by
  obtain ⟨line, -, rfl⟩ := List.mem_map.mp member
  refine ⟨?_, fun inValue => line.plain (mem_of_mem_trim inValue)⟩
  intro inName
  exact absurd (line.token '\r' inName) (by decide)

variable {headers : List (Text × Text)}

theorem cut_closingHead {line : Text} (lineFree : '\r' ∉ line)
    (plain : ∀ field ∈ headers, PlainField field) (rest : Bytes) :
    ∃ front, toUtf8 (closingHead line headers) = front ++ headEnd ∧
      cut headEnd (toUtf8 (closingHead line headers) ++ rest) = some (front, rest) := by
  have isMark : '\r' ∈ ['\r', '\n'] := by simp
  have close : lit "Connection: close\r\n\r\n" =
      lit "Connection: close" ++ ['\r', '\n', '\r', '\n'] := by decide +kernel
  have four : toUtf8 ['\r', '\n', '\r', '\n'] = headEnd := by decide
  let lines := line :: headers.map fun field => field.1 ++ lit ": " ++ field.2
  have shape : closingHead line headers =
      (lines.flatMap (· ++ ['\r', '\n']) ++ lit "Connection: close") ++ ['\r', '\n', '\r', '\n'] := by
    simp [closingHead, close, lines, flatMap_map]
  have bytes : toUtf8 (closingHead line headers) =
      toUtf8 (lines.flatMap (· ++ ['\r', '\n']) ++ lit "Connection: close") ++ headEnd := by
    rw [shape, toUtf8_append _ ['\r', '\n', '\r', '\n'], four]
  refine ⟨_, bytes, ?_⟩
  rw [bytes]
  apply cut_toUtf8_lines
  · intro text member
    rw [cons_append, mem_cons, mem_append, mem_singleton] at member
    apply unbroken_of_not_mem isMark
    rcases member with rfl | inFields | rfl
    · exact lineFree
    · obtain ⟨field, listed, rfl⟩ := List.mem_map.mp inFields
      have ends := plain field listed
      simp [lit, ends.1, ends.2]
    · decide +kernel
  · intro text member
    rw [cons_append, tail_cons, mem_append, mem_singleton] at member
    rcases member with inFields | rfl
    · obtain ⟨field, -, rfl⟩ := List.mem_map.mp inFields
      simp [lit]
    · simp [lit]

theorem closingHead_injective {first second : Text} {others : List (Text × Text)}
    {rest more : Bytes} (firstFree : '\r' ∉ first) (secondFree : '\r' ∉ second)
    (plain : ∀ field ∈ headers, PlainField field) (otherPlain : ∀ field ∈ others, PlainField field)
    (same : toUtf8 (closingHead first headers) ++ rest =
      toUtf8 (closingHead second others) ++ more) :
    first = second ∧ rest = more ∧
      headers.flatMap (fun field => field.1 ++ lit ": " ++ field.2 ++ ['\r', '\n']) =
        others.flatMap (fun field => field.1 ++ lit ": " ++ field.2 ++ ['\r', '\n']) := by
  obtain ⟨front, bytes, found⟩ := cut_closingHead firstFree plain rest
  obtain ⟨other, otherBytes, otherFound⟩ := cut_closingHead secondFree otherPlain more
  -- Both are cut at the same place.
  rw [same, otherFound, some.injEq, Prod.mk.injEq] at found
  have texts : closingHead first headers = closingHead second others := by
    apply toUtf8_injective
    rw [bytes, otherBytes, found.1]
  have apart : ∀ (line : Text) (headers : List (Text × Text)), closingHead line headers =
      line ++ '\r' :: ('\n' ::
        (headers.flatMap (fun field => field.1 ++ lit ": " ++ field.2 ++ ['\r', '\n']) ++
          lit "Connection: close\r\n\r\n")) := by
    intro line headers
    simp [closingHead]
  have split := congrArg (splitOnce '\r') texts
  rw [apart, apart, splitOnce_append firstFree, splitOnce_append secondFree, some.injEq,
    Prod.mk.injEq, cons.injEq] at split
  exact ⟨split.1, found.2.symm, append_cancel_right split.2.2⟩

theorem forall_of_flatMap_filter_eq {β : Type} {line : β → Text} (solid : ∀ field, line field ≠ [])
    {fields : List β} {strict loose : β → Bool}
    (fewer : ∀ field ∈ fields, strict field = true → loose field = true)
    (same : (fields.filter strict).flatMap line = (fields.filter loose).flatMap line) :
    ∀ field ∈ fields, loose field = true → strict field = true := by
  have length := congrArg List.length same
  clear same
  induction fields with
  | nil => simp
  | cons field rest ih =>
    obtain ⟨here, later⟩ := List.forall_mem_cons.mp fewer
    have restricted : (rest.filter loose).filter strict = rest.filter strict := by
      rw [List.filter_filter]
      apply filter_congr
      intro other member
      cases kept : strict other with
      | false => simp
      | true => simp [later other member kept]
    have atMost : ((rest.filter strict).flatMap line).length ≤
        ((rest.filter loose).flatMap line).length := by
      have sublist : (rest.filter strict).Sublist (rest.filter loose) := by
        rw [← restricted]
        exact filter_sublist
      exact (sublist.map line).flatten.length_le
    cases isStrict : strict field with
    | true =>
      have isLoose := here isStrict
      rw [filter_cons_of_pos isStrict, filter_cons_of_pos isLoose, flatMap_cons,
        flatMap_cons, length_append, length_append] at length
      refine List.forall_mem_cons.mpr ⟨fun _ => isStrict, ih later (by omega)⟩
    | false =>
      rw [filter_cons_of_neg (by simp [isStrict])] at length
      cases isLoose : loose field with
      | true =>
        -- One more line makes the lines longer.
        have some_ := length_pos_of_ne_nil (solid field)
        rw [filter_cons_of_pos isLoose, flatMap_cons, length_append] at length
        omega
      | false =>
        rw [filter_cons_of_neg (by simp [isLoose])] at length
        refine List.forall_mem_cons.mpr ⟨?_, ih later length⟩
        rw [isLoose]
        simp

theorem mem_of_mem_path {target host path : Text} {port : Nat}
    (resolved : resolvePlainHttpTarget target headers = some (host, port, path)) {c : Char}
    (member : c ∈ path) : c ∈ target ∨ c = '/' := by
  have stripped : ∀ start rest : Text, stripStart start target = some rest →
      ∀ c ∈ rest, c ∈ target := by
    intro start rest found c inside
    simp only [stripStart, ite_none_right_eq_some, some.injEq] at found
    rw [← found.2] at inside
    exact mem_of_mem_drop inside
  have absolute : ∀ (rest : Text) (defaultPort : Nat), (∀ c ∈ rest, c ∈ target) →
      resolvePlainHttpTarget.absolute rest defaultPort = some (host, port, path) →
      c ∈ target ∨ c = '/' := by
    intro rest defaultPort inTarget found
    simp only [resolvePlainHttpTarget.absolute, ite_none_left_eq_some, some.injEq,
      Prod.mk.injEq] at found
    rw [← found.2.2.2, splitPath] at member
    split at member
    · rename_i authority behind split
      rcases List.mem_cons.mp member with slash | inside
      · exact .inr slash
      · refine .inl (inTarget c ?_)
        rw [(eq_append_of_splitOnce split).1]
        simp [inside]
    · right
      simpa [lit] using member
  unfold resolvePlainHttpTarget at resolved
  split at resolved
  · rename_i rest opens
    exact absolute rest 80 (stripped _ rest opens) resolved
  · rename_i rest _ opens
    exact absolute rest 443 (stripped _ rest opens) resolved
  · split at resolved
    · -- The path is the target itself.
      obtain ⟨authority, -, parts⟩ := Option.map_eq_some_iff.mp resolved
      rw [Prod.mk.injEq, Prod.mk.injEq] at parts
      rw [← parts.2.2] at member
      exact .inl member
    · simp at resolved

namespace AbsoluteRequest

variable {ctx : RewriteCtx}

variable (request : AbsoluteRequest)

theorem isHead : IsHead request.head := by
  have free := versionedLine_free request.methodFree.2 request.uriFree.2 request.versionFree
  rw [head, toUtf8_versionedHead]
  exact isHead_lines (not_mem_toUtf8 free) request.fields

theorem sentToOrigin_refused (unreachable : List (Text × Nat)) (peek : Peek) {stream : Segments}
    (refused : headVerdict (readHttpHead stream) = .refused) :
    sentToOrigin ctx unreachable peek stream = none := by
  unfold sentToOrigin handleHttpClient
  cases read : readHttpHead stream with
  | error error => simp
  | ok result =>
    obtain ⟨outcome, rest⟩ := result
    rw [read] at refused
    cases outcome with
    | got head leftover => simp [headVerdict] at refused
    | closed => simp
    | oversized => simp

def passesOn (method : Text) : Bool :=
  isValidHttpMethod method && !eqIgnoreCase method (lit "CONNECT")

theorem sentToOrigin_taken (direct : ctx.hasFronter = false) (unreachable : List (Text × Nat))
    (peek : Peek) (request : AbsoluteRequest) {stream : Segments} {payload : Bytes}
    (bytes : stream.bytes = request.head ++ payload)
    (taken : headVerdict (readHttpHead stream) = .taken request.head) :
    sentToOrigin ctx unreachable peek stream =
      if passesOn request.method then
        (resolvePlainHttpTarget request.uri.text request.headers).map fun (host, port, path) =>
          (host, port,
            toUtf8 (closingHead (versionedLine request.method path request.version)
              (request.headers.filter fun field => !decide (lower field.1 ∈ hopFields))) ++ payload)
      else none := by
  have parsed := parseRequestHead_versioned request.methodFree request.uriFree request.versionFree
    request.fields
  obtain ⟨leftover, rest, read⟩ : ∃ leftover rest,
      readHttpHead stream = .ok (.got request.head leftover, rest) := by
    cases read : readHttpHead stream with
    | error error => simp [read, headVerdict] at taken
    | ok result =>
      obtain ⟨outcome, rest⟩ := result
      rw [read] at taken
      cases outcome with
      | got head leftover =>
        rw [headVerdict, HeadVerdict.taken.injEq] at taken
        exact ⟨leftover, rest, by rw [taken]⟩
      | closed => simp [headVerdict] at taken
      | oversized => simp [headVerdict] at taken
  obtain ⟨-, payloadIs, -⟩ := readHttpHead_got request.isHead bytes read
  unfold sentToOrigin handleHttpClient passesOn
  simp only [read]
  rw [head, parsed]
  cases known : isValidHttpMethod request.method with
  | false => simp
  | true =>
    simp only [if_true, Bool.true_and]
    cases tunnel : eqIgnoreCase request.method (lit "CONNECT") with
    | true =>
      -- A tunnel is another matter.
      simp only [if_true, Bool.not_true, Bool.false_eq_true, if_false]
      split
      · rename_i plain
        split at plain
        · simp at plain
        · simp at plain
      · rfl
    | false =>
      simp only [Bool.false_eq_true, if_false, Bool.not_false, if_true, servePlain, direct,
        doPlainHttpPassthrough, parsed, known]
      cases resolved : resolvePlainHttpTarget request.uri.text (request.fields.map FieldLine.field) with
      | none => simp [headers, resolved]
      | some parts =>
        simp only [headers, resolved, map_some, originHead_eq, payloadIs, append_assoc]

structure Forwardable (request : AbsoluteRequest) : Prop where
  known : passesOn request.method = true
  -- One byte beyond the limit is not noticed.
  small : request.head.length ≤ maxHeaderBytes + 1
  lowerCase : lower request.uri.scheme = request.uri.scheme
  anonymous : request.uri.userinfo = none
  rooted : request.uri.path ≠ [] ∨ request.uri.query = none
  hops : ∀ field ∈ request.headers,
    isHopByHop request.headers field.1 = true → lower field.1 ∈ hopFields

theorem isHopByHop_of_mem_hopFields {name : Text} (hop : lower name ∈ hopFields) :
    isHopByHop headers name = true := by
  unfold isHopByHop
  rw [Bool.or_eq_true, decide_eq_true_eq]
  simp only [hopFields, hopByHopFields, mem_cons, not_mem_nil, or_false] at hop ⊢
  tauto

theorem originForm_free : '\r' ∉ request.uri.originForm := by
  intro member
  apply request.uriFree.2
  simp only [AbsoluteUri.originForm, AbsoluteUri.text, mem_append] at member ⊢
  rcases member with inPath | inQuery
  · split at inPath
    · exact absurd (List.mem_singleton.mp inPath) (by decide)
    · exact .inl (.inr inPath)
  · exact .inr inQuery

theorem filter_hopFields_eq
    (hops : ∀ field ∈ request.headers, isHopByHop request.headers field.1 = true → lower field.1 ∈ hopFields) :
    (request.headers.filter fun field => !decide (lower field.1 ∈ hopFields)) =
      request.endToEnd := by
  apply filter_congr
  intro field member
  by_cases own : lower field.1 ∈ hopFields
  · simp [own, isHopByHop_of_mem_hopFields own]
  · have endToEnd : isHopByHop request.headers field.1 = false := by
      by_contra hop
      exact own (hops field member (by simpa using hop))
    simp [own, endToEnd]

theorem sent_eq_forOrigin_iff (later : Bytes) :
    (if passesOn request.method then
        (resolvePlainHttpTarget request.uri.text request.headers).map fun (host, port, path) =>
          (host, port,
            toUtf8 (closingHead (versionedLine request.method path request.version)
              (request.headers.filter fun field => !decide (lower field.1 ∈ hopFields))) ++
                (request.body.encode ++ later))
      else none) = some request.forOrigin ↔
      passesOn request.method = true ∧ lower request.uri.scheme = request.uri.scheme ∧
        request.uri.userinfo = none ∧ (request.uri.path ≠ [] ∨ request.uri.query = none) ∧
        (∀ field ∈ request.headers,
          isHopByHop request.headers field.1 = true → lower field.1 ∈ hopFields) ∧ later = [] := by
  have plain : ∀ keep : Text × Text → Bool, ∀ field ∈ request.headers.filter keep,
      PlainField field := fun keep field member => plainField (List.mem_filter.mp member).1
  have fewer : ∀ field ∈ request.headers, (!isHopByHop request.headers field.1) = true →
      (!decide (lower field.1 ∈ hopFields)) = true := by
    intro field _ endToEnd
    by_contra hop
    have own : lower field.1 ∈ hopFields := by simpa using hop
    simp [isHopByHop_of_mem_hopFields own] at endToEnd
  constructor
  · intro sent
    by_cases known : passesOn request.method = true
    · rw [if_pos known] at sent
      obtain ⟨⟨host, port, path⟩, resolved, same⟩ := Option.map_eq_some_iff.mp sent
      simp only [forOrigin, Prod.mk.injEq] at same
      obtain ⟨hostIs, portIs, bytes⟩ := same
      have pathFree : '\r' ∉ path := by
        intro member
        rcases mem_of_mem_path resolved member with inTarget | slash
        · exact request.uriFree.2 inTarget
        · exact absurd slash (by decide)
      obtain ⟨line, behind, lines⟩ := closingHead_injective
        (versionedLine_free request.methodFree.2 pathFree request.versionFree)
        (versionedLine_free request.methodFree.2 request.originForm_free request.versionFree)
        (plain _) (plain _) bytes
      have pathIs : path = request.uri.originForm := by
        have cancelled := append_cancel_left line
        rw [cons.injEq] at cancelled
        exact append_cancel_right cancelled.2
      rw [hostIs, portIs, pathIs] at resolved
      obtain ⟨lowerCase, anonymous, rooted⟩ := AbsoluteUri.plain_of_resolve resolved
      refine ⟨known, lowerCase, anonymous, rooted, ?_, ?_⟩
      · have all := forall_of_flatMap_filter_eq (fun field => by simp) fewer lines.symm
        intro field member hop
        by_contra other
        have kept := all field member (by simpa using other)
        simp [hop] at kept
      · exact List.append_right_eq_self.mp behind
    · rw [if_neg known] at sent
      simp at sent
  · rintro ⟨known, lowerCase, anonymous, rooted, hops, rfl⟩
    have resolved := AbsoluteUri.resolve_of_plain lowerCase anonymous rooted request.headers
    rw [if_pos known, resolved]
    simp [forOrigin, request.filter_hopFields_eq hops]

/--
Exactly one request is sent on, in the form for the origin, exactly if it is the only one and has
nothing to take off: all bytes behind the head are copied.
-/
theorem forwards_one_request_iff (direct : ctx.hasFronter = false)
    (unreachable : List (Text × Nat)) (peek : Peek) (request : AbsoluteRequest) (later : Bytes) :
    (∀ stream : Segments, stream.bytes = request.encode ++ later →
        sentToOrigin ctx unreachable peek stream = some request.forOrigin) ↔
      request.Forwardable ∧ later = [] := by
  have whole : request.encode ++ later = request.head ++ (request.body.encode ++ later) := by
    rw [encode, append_assoc]
  constructor
  · intro law
    have small : request.head.length ≤ maxHeaderBytes + 1 := by
      by_contra long
      have longHead : maxHeaderBytes + 1 < request.head.length := by omega
      have longAll : maxHeaderBytes + 1 <
          (request.head ++ (request.body.encode ++ later)).length := by
        rw [length_append]
        omega
      have sent := law (arrivingInTwo _ longAll) ((bytes_arrivingInTwo longAll).trans whole.symm)
      have refused := headVerdict_arrivingInTwo request.isHead longHead longAll
      rw [sentToOrigin_refused unreachable peek refused] at sent
      simp at sent
    obtain ⟨stream, bytes⟩ := Segments.exists_bytes_eq (request.encode ++ later)
    have sent := law stream bytes
    rw [whole] at bytes
    rw [sentToOrigin_taken direct unreachable peek request bytes
      (headVerdict_taken request.isHead small bytes), sent_eq_forOrigin_iff] at sent
    obtain ⟨known, lowerCase, anonymous, rooted, hops, nothing⟩ := sent
    exact ⟨⟨known, small, lowerCase, anonymous, rooted, hops⟩, nothing⟩
  · rintro ⟨⟨known, small, lowerCase, anonymous, rooted, hops⟩, nothing⟩ stream bytes
    rw [whole] at bytes
    rw [sentToOrigin_taken direct unreachable peek request bytes
      (headVerdict_taken request.isHead small bytes), sent_eq_forOrigin_iff]
    exact ⟨known, lowerCase, anonymous, rooted, hops, nothing⟩

def frontPage : AbsoluteRequest where
  method := lit "GET"
  uri :=
    { scheme := lit "http"
      userinfo := none
      host := .name (lit "a.example") (by decide +kernel)
        (List.all_iff_forall_prop.mp (by decide +kernel))
      port := none
      path := lit "/"
      query := none
      known := AbsoluteUri.known_http
      user := by simp
      numbered := by simp
      rooted := Or.inr (by decide +kernel)
      unasked := by decide +kernel }
  version := lit "HTTP/1.1"
  fields := [
    ⟨lit "Host", lit " a.example", by decide +kernel, List.all_eq_true.mp (by decide +kernel),
      by decide +kernel⟩,
    ⟨lit "Proxy-Connection", lit " keep-alive", by decide +kernel,
      List.all_eq_true.mp (by decide +kernel), by decide +kernel⟩]
  body := .none
  methodFree := by decide +kernel
  uriFree := by decide +kernel
  versionFree := by decide +kernel
  announced := by
    unfold WireBody.Announced
    decide +kernel

theorem forwards_one_request_front_page :
    directCtx.hasFronter = false ∧
      ∀ stream : Segments, stream.bytes = frontPage.encode ++ [] →
        sentToOrigin directCtx [] .answered stream = some frontPage.forOrigin := by
  have direct : directCtx.hasFronter = false := rfl
  refine ⟨direct, (forwards_one_request_iff direct [] .answered frontPage []).mpr ⟨?_, rfl⟩⟩
  have hops : ∀ field ∈ frontPage.headers,
      isHopByHop frontPage.headers field.1 = true → lower field.1 ∈ hopFields := by
    decide +kernel
  have length : frontPage.head.length ≤ 100 := by decide +kernel
  exact ⟨by decide +kernel, by simp only [maxHeaderBytes]; omega, by decide +kernel, rfl,
    Or.inl (by decide +kernel), hops⟩

theorem second_request_goes_to_first_origin :
    sentToOrigin directCtx [] .answered
        ⟨[frontPage.encode ++ toUtf8 (lit "GET http://b.example/ HTTP/1.1\r\n\r\n")],
          by decide +kernel⟩ =
      some (lit "a.example", 80, toUtf8 (lit "GET / HTTP/1.1\r\nHost: a.example\r\n") ++
        toUtf8 (lit "Connection: close\r\n\r\nGET http://b.example/ HTTP/1.1\r\n\r\n")) := by
  decide +kernel

end AbsoluteRequest

end Gvpn
