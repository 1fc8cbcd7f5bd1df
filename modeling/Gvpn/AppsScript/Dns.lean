import Gvpn.AppsScript.Engine
import Gvpn.Fronter.ExitNode

/-! Name lookups that a script answers itself, from its cache or by a resolver. -/

namespace Gvpn

def edgeDnsResolvers : List Text :=
  [lit "https://1.1.1.1/dns-query", lit "https://dns.google/dns-query",
    lit "https://dns.quad9.net/dns-query"]

def edgeDnsMinTtl : Nat := 30
def edgeDnsMaxTtl : Nat := 21600
def edgeDnsNegTtl : Nat := 45
def edgeDnsMaxKeyLen : Nat := 240

def edgeDnsCacheStart : Text := lit "edns:"

def edgeDnsRefuseQtypes : List Nat := [255]

def byteAt (bytes : Bytes) (i : Nat) : Nat := (bytes[i]?.map UInt8.toNat).getD 0

def wordAt (bytes : Bytes) (i : Nat) : Nat := byteAt bytes i * 256 + byteAt bytes (i + 1)

structure Question where
  txid : Nat
  qname : Text
  qtype : Nat

def labelText (bytes : Bytes) (off len : Nat) : Text :=
  ((bytes.drop off).take len).map fun byte =>
    let c := byte.toNat
    Char.ofNat (if 65 ≤ c ∧ c ≤ 90 then c + 32 else c)

/-- Read the labels of a name up to an empty one, with the offset behind it. -/
def questionName (bytes : Bytes) : Nat → Nat → List Text → Nat → Option (Nat × List Text)
  | 0, off, labels, _ => some (off, labels)
  | fuel + 1, off, labels, nameLen =>
    if off < bytes.length then
      let len := byteAt bytes off
      if len = 0 then some (off + 1, labels)
      -- A name in a question is not compressed.
      else if len &&& 0xC0 ≠ 0 then none
      else if 63 < len then none
      else if bytes.length < off + 1 + len then none
      else if 255 < nameLen + len + 1 then none
      else questionName bytes fuel (off + 1 + len) (labels ++ [labelText bytes (off + 1) len])
        (nameLen + len + 1)
    else some (off, labels)

def dnsParseQuestion (bytes : Bytes) : Option Question :=
  if bytes.length < 12 then none
  -- A reply to several would be stored under the first only.
  else if wordAt bytes 4 ≠ 1 then none
  else
    match questionName bytes bytes.length 12 [] 0 with
    | none => none
    | some (off, labels) =>
      if bytes.length < off + 4 then none
      else some
        { txid := wordAt bytes 0, qname := (lit ".").intercalate labels, qtype := wordAt bytes off }

def dnsSkipName (bytes : Bytes) : Nat → Nat → Option Nat
  | 0, _ => none
  | fuel + 1, off =>
    if off < bytes.length then
      let len := byteAt bytes off
      if len = 0 then some (off + 1)
      else if len &&& 0xC0 = 0xC0 then
        if bytes.length < off + 2 then none else some (off + 2)
      else if len &&& 0xC0 ≠ 0 then none
      else if 63 < len then none
      else dnsSkipName bytes fuel (off + 1 + len)
    else none

def dnsSkipQuestions (bytes : Bytes) : Nat → Nat → Option Nat
  | 0, off => some off
  | count + 1, off =>
    match dnsSkipName bytes bytes.length off with
    | none => none
    | some behind => if bytes.length < behind + 4 then none
      else dnsSkipQuestions bytes count (behind + 4)

def recordTtl (bytes : Bytes) (off : Nat) : Nat :=
  let ttl := byteAt bytes (off + 4) * 0x1000000 + byteAt bytes (off + 5) * 0x10000 +
    byteAt bytes (off + 6) * 0x100 + byteAt bytes (off + 7)
  if 0x7FFFFFFF < ttl then 0 else ttl

def leastTtl (bytes : Bytes) : Nat → Nat → Option Nat → Option Nat
  | 0, _, least => least
  | count + 1, off, least =>
    match dnsSkipName bytes bytes.length off with
    | none => none
    | some behind =>
      if bytes.length < behind + 10 then none
      else
        let ttl := recordTtl bytes behind
        let next := behind + 10 + wordAt bytes (behind + 8)
        if bytes.length < next then none
        else leastTtl bytes count next (some (least.elim ttl (min ttl)))

def dnsMinTtl (bytes : Bytes) : Option Nat :=
  if bytes.length < 12 then none
  else
    match dnsSkipQuestions bytes (wordAt bytes 4) 12 with
    | none => none
    | some off => leastTtl bytes (wordAt bytes 6 + wordAt bytes 8) off none

def dnsRewriteTxid (bytes : Bytes) (txid : Nat) : Bytes :=
  UInt8.ofNat (txid / 256) :: UInt8.ofNat (txid % 256) :: bytes.drop 2

def hexText (digest : Bytes) : Text :=
  digest.flatMap fun byte => [Json.hexChar (byte.toNat / 16), Json.hexChar (byte.toNat % 16)]

/-- The key an answer is stored under: the type and the name of the question, hashed if too long. -/
def edgeDnsKey (sha256 : Text → Bytes) (qtype : Nat) (qname : Text) : Text :=
  let key := edgeDnsCacheStart ++ decimal qtype ++ lit ":" ++ qname
  if edgeDnsMaxKeyLen < key.length then
    edgeDnsCacheStart ++ lit "h:" ++ decimal qtype ++ lit ":" ++ hexText (sha256 qname)
  else key

structure Prepared where
  bytes : Bytes
  question : Question
  key : Text

def edgeDnsPrepare (engine : Engine) (sha256 : Text → Bytes) (d : Json) : Option Prepared :=
  match engine.base64Decode d with
  | .error _ => none
  | .ok bytes =>
    if bytes.length < 12 then none
    else
      match dnsParseQuestion bytes with
      | none => none
      | some question =>
        if question.qtype ∈ edgeDnsRefuseQtypes then none
        else some { bytes, question, key := edgeDnsKey sha256 question.qtype question.qname }

def dohUrl (url : Text) (query : Bytes) : Text :=
  let webSafe := (Base64.encode query).map fun c =>
    if c = '+' then '-' else if c = '/' then '_' else c
  url ++ lit "?dns=" ++ trimEndMatches (· = '=') webSafe

def edgeDnsDoh (fetch : Text → Except Text Fetched) (url : Text) (query : Bytes) : Option Bytes :=
  match fetch (dohUrl url query) with
  | .error _ => none
  | .ok response =>
    if response.code ≠ 200 then none
    else if response.content.length < 12 then none
    else some response.content

def edgeDnsTtl (reply : Bytes) : Nat :=
  let rcode := byteAt reply 3 &&& 0x0F
  if rcode = 2 ∨ rcode = 3 then edgeDnsNegTtl
  else min edgeDnsMaxTtl (max edgeDnsMinTtl ((dnsMinTtl reply).getD edgeDnsNegTtl))

def edgeDnsResult (sid : Text) (packet : Bytes) : Json :=
  .obj [(lit "sid", .str sid), (lit "pkts", .arr [.str (Base64.encode packet)]),
    (lit "eof", .bool true)]

def cachedReply (engine : Engine) (cached : Text) : Option Bytes :=
  if cached = [] then none
  else
    match engine.base64Decode (.str cached) with
    | .ok hit => if 12 ≤ hit.length then some hit else none
    | .error _ => none

structure Resolved where
  /-- The result, if the operation need not be forwarded. -/
  result : Option Json
  localMap : List (Text × Text)
  /-- What is to be stored in the cache, with its lifetime. -/
  puts : List (Text × Text × Nat)

/-- Answer a query from the entries at hand or by the resolvers. -/
def edgeDnsResolve (engine : Engine) (fetch : Text → Except Text Fetched) (cacheWorks : Bool)
    (localMap : List (Text × Text)) (prep : Prepared) : Resolved :=
  match (localMap.lookup prep.key).bind (cachedReply engine) with
  | some hit =>
    { result := some (edgeDnsResult (lit "edns-cache") (dnsRewriteTxid hit prep.question.txid))
      localMap, puts := [] }
  | none =>
    match edgeDnsResolvers.findSome? fun url => edgeDnsDoh fetch url prep.bytes with
    | none => { result := none, localMap, puts := [] }
    | some reply =>
      let encoded := Base64.encode reply
      { result := some (edgeDnsResult (lit "edns-doh") (dnsRewriteTxid reply prep.question.txid))
        localMap := assign prep.key encoded localMap
        puts := if cacheWorks then [(prep.key, encoded, edgeDnsTtl reply)] else [] }

end Gvpn
