import Gvpn.Data.Table
import Gvpn.Proxy.Routing

/-! The settings: the program's flat record, and the sections of `config.toml`. -/

namespace Gvpn

inductive ScriptId where
  | one (id : Text)
  | many (ids : List Text)
  deriving DecidableEq

def ScriptId.intoVec : ScriptId → List Text
  | one id => [id]
  | many ids => ids

structure ExitNodeSection where
  enabled : Bool := false
  relayUrl : Text := []
  psk : Text := []
  mode : Text := lit "selective"
  hosts : List Text := []
  deriving DecidableEq

structure FrontingGroupEntry where
  name : Text
  ip : Text
  sni : Text
  domains : List Text
  deriving DecidableEq

def defaultQuotaDailyLimit : UInt64 := 20000

def defaultQuotaSafetyBuffer : UInt64 := 500

structure Config where
  mode : Text
  googleIp : Text := lit "216.239.38.120"
  frontDomain : Text := lit "www.google.com"
  scriptId : Option ScriptId := none
  scriptIds : Option ScriptId := none
  authKey : Text := []
  listenHost : Text := lit "0.0.0.0"
  listenPort : UInt16 := 8085
  socks5Port : Option UInt16 := none
  logLevel : Text := lit "warn"
  verifySsl : Bool := true
  hosts : Table Text Text := ∅
  enableBatching : Bool := false
  upstreamSocks5 : Option Text := none
  parallelRelay : UInt8 := 0
  coalesceStepMs : UInt16 := 0
  coalesceMaxMs : UInt16 := 0
  networkPreset : Option Text := none
  sniHosts : Option (List Text) := none
  fetchIpsFromApi : Bool := false
  maxIpsToScan : Nat := 100
  scanBatchSize : Nat := 500
  googleIpValidation : Bool := true
  normalizeXGraphql : Bool := false
  youtubeViaRelay : Bool := false
  passthroughHosts : List Text := []
  blockStun : Bool := false
  blockQuic : Bool := true
  disablePadding : Bool := false
  forceHttp1 : Bool := false
  tunnelDoh : Bool := true
  bypassDohHosts : List Text := []
  blockDoh : Bool := true
  frontingGroups : List FrontingGroupEntry := []
  autoBlacklistStrikes : UInt32 := 3
  autoBlacklistWindowSecs : UInt64 := 30
  autoBlacklistCooldownSecs : UInt64 := 120
  requestTimeoutSecs : UInt64 := 30
  streamTimeoutSecs : UInt64 := 300
  exitNode : ExitNodeSection := {}
  quotaDailyLimit : UInt64 := defaultQuotaDailyLimit
  quotaSafetyBuffer : UInt64 := defaultQuotaSafetyBuffer
  stripNoiseResponseHeaders : Bool := true

namespace Config

def modeKind (config : Config) : Except Text Mode :=
  if config.mode = lit "apps_script" then .ok .appsScript
  else if config.mode = lit "direct" ∨ config.mode = lit "google_only" then .ok .direct
  else if config.mode = lit "full" then .ok .full
  else .error (lit "unknown mode '" ++ config.mode ++
    lit "' (expected 'apps_script', 'direct', or 'full')")

def scriptIdsResolved (config : Config) : List Text :=
  ((config.scriptIds <|> config.scriptId).map ScriptId.intoVec).getD []

def validateGroup (serverName : Text → Option Text) (group : FrontingGroupEntry) (i : Nat) :
    Except Text Unit := do
  let place := lit "fronting_groups[" ++ decimal i ++ lit "]"
  let named := place ++ lit " ('" ++ group.name ++ lit "'): "
  if trim group.name = [] then throw (place ++ lit ": name is empty")
  if trim group.ip = [] then throw (named ++ lit "ip is empty")
  if trim group.sni = [] then throw (named ++ lit "sni is empty")
  if let some error := serverName group.sni then
    throw (named ++ lit "invalid sni '" ++ group.sni ++ lit "': " ++ error)
  if group.domains = [] then throw (named ++ lit "domains list is empty")
  if group.domains.any (trim · = []) then throw (named ++ lit "empty domain entry")

def validate (serverName : Text → Option Text) (config : Config) : Except Text Unit := do
  let mode ← config.modeKind
  if mode = .appsScript ∨ mode = .full then
    if trim config.authKey = [] ∨ config.authKey = lit "CHANGE_ME_TO_A_STRONG_SECRET" then
      throw (lit "auth_key must be set to a strong secret")
    if config.scriptIdsResolved = [] then throw (lit "script_id (or script_ids) is required")
    if config.scriptIdsResolved.any fun id => id = [] || id = lit "YOUR_APPS_SCRIPT_DEPLOYMENT_ID"
      then throw (lit "script_id is not set — deploy Code.gs and paste its Deployment ID")
  if config.scanBatchSize = 0 then throw (lit "scan_batch_size must be greater than 0")
  if config.socks5Port = some config.listenPort then
    throw (lit "listen_port and socks5_port must differ on the same host (both set to " ++
      decimal config.listenPort.toNat ++ lit " on " ++ config.listenHost ++
      lit "). Change one of them in config.toml.")
  for (group, i) in config.frontingGroups.zipIdx do
    validateGroup serverName group i

end Config

structure TomlRelay where
  mode : Text
  scriptId : Option ScriptId
  scriptIds : Option ScriptId
  authKey : Text
  parallelRelay : UInt8
  enableBatching : Bool
  coalesceStepMs : UInt16
  coalesceMaxMs : UInt16
  networkPreset : Option Text
  youtubeViaRelay : Bool
  normalizeXGraphql : Bool
  disablePadding : Bool
  forceHttp1 : Bool
  autoBlacklistStrikes : UInt32
  autoBlacklistWindowSecs : UInt64
  autoBlacklistCooldownSecs : UInt64
  requestTimeoutSecs : UInt64
  streamTimeoutSecs : UInt64
  stripNoiseResponseHeaders : Bool

structure TomlNetwork where
  googleIp : Text
  frontDomain : Text
  listenHost : Text
  listenPort : UInt16
  socks5Port : Option UInt16
  verifySsl : Bool
  upstreamSocks5 : Option Text
  blockQuic : Bool
  blockStun : Bool
  sniHosts : Option (List Text)
  passthroughHosts : List Text
  tunnelDoh : Bool
  blockDoh : Bool
  bypassDohHosts : List Text
  hosts : Table Text Text

structure TomlScan where
  fetchIpsFromApi : Bool
  maxIpsToScan : Nat
  scanBatchSize : Nat
  googleIpValidation : Bool

structure TomlLogging where
  logLevel : Text

structure TomlConfig where
  relay : TomlRelay
  network : TomlNetwork
  scan : TomlScan
  logging : TomlLogging
  exitNode : ExitNodeSection
  frontingGroups : List FrontingGroupEntry

def Config.ofToml (t : TomlConfig) : Config where
  mode := t.relay.mode
  googleIp := t.network.googleIp
  frontDomain := t.network.frontDomain
  scriptId := t.relay.scriptId
  scriptIds := t.relay.scriptIds
  authKey := t.relay.authKey
  listenHost := t.network.listenHost
  listenPort := t.network.listenPort
  socks5Port := t.network.socks5Port
  logLevel := t.logging.logLevel
  verifySsl := t.network.verifySsl
  hosts := t.network.hosts
  enableBatching := t.relay.enableBatching
  upstreamSocks5 := t.network.upstreamSocks5
  parallelRelay := t.relay.parallelRelay
  coalesceStepMs := t.relay.coalesceStepMs
  coalesceMaxMs := t.relay.coalesceMaxMs
  networkPreset := t.relay.networkPreset
  sniHosts := t.network.sniHosts
  fetchIpsFromApi := t.scan.fetchIpsFromApi
  maxIpsToScan := t.scan.maxIpsToScan
  scanBatchSize := t.scan.scanBatchSize
  googleIpValidation := t.scan.googleIpValidation
  normalizeXGraphql := t.relay.normalizeXGraphql
  youtubeViaRelay := t.relay.youtubeViaRelay
  passthroughHosts := t.network.passthroughHosts
  blockStun := t.network.blockStun
  blockQuic := t.network.blockQuic
  disablePadding := t.relay.disablePadding
  forceHttp1 := t.relay.forceHttp1
  tunnelDoh := t.network.tunnelDoh
  bypassDohHosts := t.network.bypassDohHosts
  blockDoh := t.network.blockDoh
  frontingGroups := t.frontingGroups
  autoBlacklistStrikes := t.relay.autoBlacklistStrikes
  autoBlacklistWindowSecs := t.relay.autoBlacklistWindowSecs
  autoBlacklistCooldownSecs := t.relay.autoBlacklistCooldownSecs
  requestTimeoutSecs := t.relay.requestTimeoutSecs
  streamTimeoutSecs := t.relay.streamTimeoutSecs
  exitNode := t.exitNode
  -- No section has these two.
  quotaDailyLimit := defaultQuotaDailyLimit
  quotaSafetyBuffer := defaultQuotaSafetyBuffer
  stripNoiseResponseHeaders := t.relay.stripNoiseResponseHeaders

def TomlConfig.ofConfig (c : Config) : TomlConfig where
  -- Each field comes from the setting of its name.
  relay := { c with }
  network := { c with }
  scan := { c with }
  logging := { c with }
  exitNode := c.exitNode
  frontingGroups := c.frontingGroups

end Gvpn
