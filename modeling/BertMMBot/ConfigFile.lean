import BertMMBot.ObjectSchema
import BertMMBot.VaultTypes

/-! # The configuration file

The main loop parses the file again in every tick, and the operator's commands rewrite its
`enabled` field. The document model and the text of a document are the YAML library's; the
schema is the bot's. -/
namespace ConfigFile

open VaultTypes ObjectSchema

/-- The libraries that the schema and the commands rely on. -/
structure Library where
  parseYaml : String → Except Thrown Value
  stringifyYaml : Value → String
  isUrl : String → Bool

def telegramFields : List Field :=
  [{ key := "botToken", type := .string, checks := [.minLength 1] },
   { key := "chatIdInfo", type := .string, checks := [.minLength 1] },
   { key := "chatIdCritical", type := .string, checks := [.minLength 1] }]

def discordFields : List Field :=
  [{ key := "webhookInfo", type := .string, checks := [.url] },
   { key := "webhookCritical", type := .string, checks := [.url] }]

def notifierSchema : Schema :=
  .object "telegram" (.fields telegramFields .done) none <|
  .object "discord" (.fields discordFields .done) none .done

def mevProtectionFields : List Field :=
  [{ key := "enabled", type := .boolean, default := some (.bool false) },
   { key := "blockEngineUrl", type := .string, checks := [.url],
     default := some (.string "https://mainnet.block-engine.jito.wtf") },
   { key := "tipLamports", type := .number, checks := [.int, .min 1000, .max 10000000],
     default := some (.number 100000) },
   { key := "bundleTimeoutMs", type := .number, checks := [.int, .min 5000, .max 60000],
     default := some (.number 30000) }]

def vaultFields : List Field :=
  [{ key := "enabled", type := .boolean },
   { key := "withdrawalFeeBps", type := .number, checks := [.int, .min 0, .max 1000] },
   { key := "minDepositUsd", type := .number, checks := [.positive] },
   { key := "minWithdrawalUsd", type := .number, checks := [.positive] },
   { key := "maxDailyWithdrawalsPerUser", type := .number, checks := [.int, .positive] },
   { key := "maxDailyWithdrawalUsdPerUser", type := .number, checks := [.positive] },
   { key := "maxPendingWithdrawals", type := .number, checks := [.int, .positive] },
   { key := "depositMinConfirms", type := .number, checks := [.int, .nonnegative] },
   { key := "whitelistCooldownHours", type := .number, checks := [.int, .positive] },
   { key := "operatorTelegramId", type := .number, checks := [.int] },
   { key := "uiButtons", type := .boolean, default := some (.bool true) }]

def makerFields : List Field :=
  [{ key := "poolAddress", type := .string, checks := [.minLength 32] },
   { key := "bertMint", type := .string, checks := [.minLength 32] },
   { key := "rangeWidthPct", type := .number, checks := [.min 1, .max 100] },
   { key := "sustainedMinutes", type := .number, checks := [.int, .min 1, .max 120] },
   { key := "minRebalanceIntervalMin", type := .number, checks := [.int, .min 5, .max 1440] },
   { key := "maxRebalancesPerDay", type := .number, checks := [.int, .min 1, .max 48] },
   { key := "maxSlippageBps", type := .number, checks := [.int, .min 1, .max 500] },
   { key := "maxDrawdownPct", type := .number, checks := [.min 1, .max 50] },
   { key := "drawdownWindowMin", type := .number, checks := [.int, .min 5, .max 240] },
   { key := "maxPositionUsd", type := .number, checks := [.positive] },
   { key := "oracleDivergenceBps", type := .number, checks := [.int, .min 1, .max 500] },
   { key := "oracleStaleMinutes", type := .number, checks := [.int, .min 1, .max 60] },
   { key := "rpcOutageMinutes", type := .number, checks := [.int, .min 1, .max 30] },
   { key := "minSolBalance", type := .number, checks := [.positive] },
   { key := "hardPauseSolBalance", type := .number, checks := [.positive] },
   { key := "minSolFloorLamports", type := .number, checks := [.int, .positive],
     default := some (.number 100000000) },
   { key := "priorityFeeMicroLamports", type := .number, checks := [.int, .positive],
     default := some (.number 10000) },
   { key := "pollIntervalSec", type := .number, checks := [.int, .min 10, .max 300] },
   { key := "feeCollectionMode", type := .oneOf ["on_rebalance", "scheduled"] },
   { key := "feeHandling", type := .oneOf ["compound", "sweep"] },
   { key := "rpcPrimary", type := .string, checks := [.url] },
   { key := "rpcFallback", type := .string, checks := [.url] },
   { key := "keyfilePath", type := .string, checks := [.minLength 1] },
   { key := "statePath", type := .string, checks := [.minLength 1] },
   { key := "killSwitchFilePath", type := .string, checks := [.minLength 1] },
   { key := "heartbeatPath", type := .string, checks := [.minLength 1] }]

def venueField : Field where
  key := "venue"
  type := .oneOf ["raydium", "meteora"]
  default := some (.string "raydium")

def enabledField : Field := { key := "enabled", type := .boolean }

def botSchema : Schema :=
  .field venueField <|
  .field enabledField <|
  .object "mevProtection" (.fields mevProtectionFields .done) none <|
  .fields makerFields <|
  .object "notifier" notifierSchema (some "at least one of telegram/discord must be configured") <|
  .field { key := "dryRun", type := .boolean } <|
  .object "vault" (.fields vaultFields .done) none .done

variable (lib : Library)

def solBalance (key : String) (entries : Entries) : ℚ :=
  match entries.lookup key with
  | some (.number q) => q
  | _ => 0

def botIssues (entries : Entries) : List Issue :=
  refined [] (botSchema.issues lib.isUrl [] entries)
    (if solBalance "hardPauseSolBalance" entries < solBalance "minSolBalance" entries then none
     else some "hardPauseSolBalance must be < minSolBalance")

/-- A parsed configuration, as a document of known keys. -/
abbrev Document := Entries

def enabled (doc : Document) : Bool :=
  match doc.lookup "enabled" with
  | some (.bool b) => b
  | _ => false

inductive ConfigError where
  | yaml (e : Thrown)
  | schema (issues : List Issue)

def loadConfig (yamlText : String) : Except ConfigError Document :=
  match lib.parseYaml yamlText with
  | .error e => .error (.yaml e)
  | .ok (.map entries) =>
    if botIssues lib entries = [] then .ok (botSchema.parsed entries)
    else .error (.schema (botIssues lib entries))
  | .ok _ => .error (.schema [⟨[], .expectedObject⟩])

/-- Only an object takes the field; an array takes it without showing it. -/
def assignField (key : String) (v : Value) : Value → Except Thrown Value
  | .map entries => .ok (.map (assign key v entries))
  | .list items => .ok (.list items)
  | _ => .error (.error s!"Cannot set properties of a value that is no object (setting '{key}')")

/-- The new text of the file after `enabled` is set. -/
def withEnabled (b : Bool) (text : String) : Except Thrown String := do
  let doc ← lib.parseYaml text
  let doc ← assignField "enabled" (.bool b) doc
  return lib.stringifyYaml doc

/-- A document that was read and had its field set is read back as it was written. -/
def Library.RoundTrips (lib : Library) : Prop :=
  ∀ text v v' b, lib.parseYaml text = .ok v → assignField "enabled" (.bool b) v = .ok v' →
    lib.parseYaml (lib.stringifyYaml v') = .ok v'

variable {lib} {entries : Entries} {text : String} {doc : Document}

theorem botSchema_distinct : botSchema.distinct = true := by decide +kernel

theorem enabledField_own : enabledField ∈ botSchema.own := by
  simp [botSchema, Schema.own]

theorem botIssues_nil_iff : botIssues lib entries = [] ↔
    botSchema.issues lib.isUrl [] entries = [] ∧
      solBalance "hardPauseSolBalance" entries < solBalance "minSolBalance" entries := by
  rw [botIssues, refined_nil_iff]
  by_cases hreserve : solBalance "hardPauseSolBalance" entries < solBalance "minSolBalance" entries
  · simp [hreserve]
  · simp [hreserve]

theorem botIssues_assign {b b' : Bool} (h : entries.lookup "enabled" = some (.bool b)) :
    botIssues lib (assign "enabled" (.bool b') entries) = botIssues lib entries := by
  have hissues : botSchema.issues lib.isUrl [] (assign "enabled" (.bool b') entries) =
      botSchema.issues lib.isUrl [] entries :=
    issues_assign botSchema_distinct enabledField_own h fun _ => rfl
  have hbalance : ∀ key, key ≠ "enabled" →
      solBalance key (assign "enabled" (.bool b') entries) = solBalance key entries := by
    intro key hne
    rw [solBalance, solBalance, lookup_assign_of_ne hne]
  rw [botIssues, botIssues, hissues, hbalance _ (by decide), hbalance _ (by decide)]

theorem lookup_enabled_parsed {b : Bool} (h : entries.lookup "enabled" = some (.bool b)) :
    (botSchema.parsed entries).lookup "enabled" = some (.bool b) := by
  have hparsed := lookup_parsed entries botSchema_distinct enabledField_own
  rw [show enabledField.key = "enabled" from rfl, h] at hparsed
  exact hparsed

theorem loadConfig_ok (h : loadConfig lib text = .ok doc) :
    ∃ entries b, lib.parseYaml text = .ok (.map entries) ∧ botIssues lib entries = [] ∧
      entries.lookup "enabled" = some (.bool b) ∧ enabled doc = b ∧
      doc = botSchema.parsed entries := by
  unfold loadConfig at h
  split at h
  · cases h
  · next entries hparse =>
    by_cases hissues : botIssues lib entries = []
    · rw [if_pos hissues] at h
      cases h
      have haccepts := own_accepts (botIssues_nil_iff.mp hissues).1 enabledField_own
      have hbool : ∃ b, entries.lookup "enabled" = some (.bool b) := by
        cases hv : entries.lookup "enabled" with
        | none =>
          rw [show enabledField.key = "enabled" from rfl, hv] at haccepts
          cases haccepts
        | some v =>
          rw [show enabledField.key = "enabled" from rfl, hv] at haccepts
          cases v with
          | bool b => exact ⟨b, rfl⟩
          | _ => cases haccepts.type
      obtain ⟨b, hb⟩ := hbool
      refine ⟨entries, b, hparse, hissues, hb, ?_, rfl⟩
      rw [enabled, lookup_enabled_parsed hb]
    · rw [if_neg hissues] at h
      cases h
  · cases h

theorem withEnabled_ok {text' : String} {b : Bool} (hw : withEnabled lib b text = .ok text') :
    ∃ v v', lib.parseYaml text = .ok v ∧ assignField "enabled" (.bool b) v = .ok v' ∧
      text' = lib.stringifyYaml v' := by
  simp only [withEnabled, bind, Except.bind, pure, Except.pure] at hw
  split at hw
  · cases hw
  next v hv =>
  split at hw
  · cases hw
  next v' hv' =>
  exact ⟨v, v', hv, hv', (Except.ok.inj hw).symm⟩

theorem enabled_withEnabled (hlib : lib.RoundTrips) {text' : String} {doc' : Document}
    {b : Bool} (hw : withEnabled lib b text = .ok text') (hdoc : loadConfig lib text' = .ok doc') :
    enabled doc' = b := by
  obtain ⟨v, v', hv, hv', rfl⟩ := withEnabled_ok hw
  obtain ⟨entries', b', hparse, -, hb', henabled, -⟩ := loadConfig_ok hdoc
  rw [hlib _ v v' b hv hv'] at hparse
  cases hparse
  cases v with
  | map entries =>
    cases hv'
    rw [lookup_assign] at hb'
    cases hb'
    exact henabled
  | list items => cases hv'
  | _ => cases hv'

theorem loads_withEnabled (hlib : lib.RoundTrips) (b : Bool)
    (h : loadConfig lib text = .ok doc) :
    ∃ text' doc', withEnabled lib b text = .ok text' ∧ loadConfig lib text' = .ok doc' := by
  obtain ⟨entries, b₀, hparse, hissues, hb, -⟩ := loadConfig_ok h
  have hread : lib.parseYaml (lib.stringifyYaml (.map (assign "enabled" (.bool b) entries))) =
      .ok (.map (assign "enabled" (.bool b) entries)) := hlib _ _ _ b hparse rfl
  have hissues' : botIssues lib (assign "enabled" (.bool b) entries) = [] :=
    (botIssues_assign hb).trans hissues
  have hwritten : withEnabled lib b text =
      .ok (lib.stringifyYaml (.map (assign "enabled" (.bool b) entries))) := by
    simp only [withEnabled, hparse, assignField, bind, Except.bind, pure, Except.pure]
  have hload : ∃ doc', loadConfig lib
      (lib.stringifyYaml (.map (assign "enabled" (.bool b) entries))) = .ok doc' := by
    simp only [loadConfig, hread, if_pos hissues']
    exact ⟨_, rfl⟩
  obtain ⟨doc', hdoc⟩ := hload
  exact ⟨_, doc', hwritten, hdoc⟩

end ConfigFile
