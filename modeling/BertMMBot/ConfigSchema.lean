import BertMMBot.PauseSwitch

/-! # What the schema accepts

A configuration that loads fits the schema: every field of the bot, given or by default, of its
type and within its bounds, in the objects within it as well, and nothing else. Loaded once more
it stays as it is. -/
namespace ConfigSchema

open ConfigFile ObjectSchema
open PauseSwitch (loads loads_iff playedEntries playedText playedLibrary played_loads)

variable {lib : Library} {entries : Entries}

/-- A configuration that can be started with. -/
structure Settings (lib : Library) where
  document : Document
  fits : Fits lib.isUrl botSchema document
  reserve : solBalance "hardPauseSolBalance" document < solBalance "minSolBalance" document

theorem botSchema_defaults (hurl : lib.isUrl "https://mainnet.block-engine.jito.wtf" = true) :
    botSchema.DefaultsConform lib.isUrl := by
  have hmev : ∀ f ∈ mevProtectionFields, ∀ v ∈ f.default, Conforms lib.isUrl f v := by
    simp [mevProtectionFields, conforms_iff, hasType, passes, hurl]
    norm_num
  have hmaker : ∀ f ∈ makerFields, ∀ v ∈ f.default, Conforms lib.isUrl f v := by
    simp [makerFields, conforms_iff, hasType, passes]
  have hvault : ∀ f ∈ vaultFields, ∀ v ∈ f.default, Conforms lib.isUrl f v := by
    simp [vaultFields, conforms_iff, hasType, passes]
  have hnotifier : notifierSchema.DefaultsConform lib.isUrl := by
    simp [notifierSchema, telegramFields, discordFields, Schema.fields, Schema.DefaultsConform]
  have hvenue : ∀ v ∈ venueField.default, Conforms lib.isUrl venueField v := by
    simp [venueField, conforms_iff, hasType]
  refine ⟨hvenue, by simp [enabledField], defaultsConform_fields hmev trivial,
    defaultsConform_fields hmaker ⟨hnotifier, by simp, defaultsConform_fields hvault trivial, ?_⟩⟩
  trivial

theorem solBalance_parsed {f : Field} (hf : f ∈ botSchema.own) (hdefault : f.default = none) :
    solBalance f.key (botSchema.parsed entries) = solBalance f.key entries := by
  rw [solBalance, solBalance, lookup_parsed _ botSchema_distinct hf, hdefault, Option.or_none]

theorem reserve_parsed :
    solBalance "hardPauseSolBalance" (botSchema.parsed entries) =
        solBalance "hardPauseSolBalance" entries ∧
      solBalance "minSolBalance" (botSchema.parsed entries) = solBalance "minSolBalance" entries :=
  ⟨solBalance_parsed (f := { key := "hardPauseSolBalance", type := .number, checks := [.positive] })
      (by simp [botSchema, Schema.own, Schema.fields, makerFields]) rfl,
    solBalance_parsed (f := { key := "minSolBalance", type := .number, checks := [.positive] })
      (by simp [botSchema, Schema.own, Schema.fields, makerFields]) rfl⟩

def settingsOf (hurl : lib.isUrl "https://mainnet.block-engine.jito.wtf" = true)
    (hissues : botIssues lib entries = []) : Settings lib where
  document := botSchema.parsed entries
  fits := fits_parsed (botIssues_nil_iff.mp hissues).1 (botSchema_defaults hurl)
  reserve := by
    rw [reserve_parsed.1, reserve_parsed.2]
    exact (botIssues_nil_iff.mp hissues).2

theorem reload (s : Settings lib) {text : String}
    (hparse : lib.parseYaml text = .ok (.map s.document)) :
    loadConfig lib text = .ok s.document := by
  obtain ⟨hparsed, hissues⟩ := s.fits.reread [] [] botSchema_distinct
    fun _ _ => rfl
  rw [List.nil_append] at hparsed hissues
  have hnil : botIssues lib s.document = [] := botIssues_nil_iff.mpr ⟨hissues, s.reserve⟩
  simp only [loadConfig, hparse, if_pos hnil, hparsed]

/-- Every configuration that loads is a complete and well-formed one, and is left as it is when it
is loaded once more. -/
theorem loaded_settles (hurl : lib.isUrl "https://mainnet.block-engine.jito.wtf" = true)
    {text : String} {doc : Document} (hdoc : loadConfig lib text = .ok doc) :
    (∃ s : Settings lib, s.document = doc) ∧
      ∀ text', lib.parseYaml text' = .ok (.map doc) → loadConfig lib text' = .ok doc := by
  obtain ⟨entries, b, -, hissues, -, -, rfl⟩ := loadConfig_ok hdoc
  exact ⟨⟨settingsOf hurl hissues, rfl⟩, fun _ hparse => reload (settingsOf hurl hissues) hparse⟩

def completedText : String := "venue: raydium
enabled: true
poolAddress: \"11111111111111111111111111111111\"
bertMint: \"22222222222222222222222222222222\"
rangeWidthPct: 20
sustainedMinutes: 5
minRebalanceIntervalMin: 30
maxRebalancesPerDay: 3
maxSlippageBps: 50
maxDrawdownPct: 15
drawdownWindowMin: 60
maxPositionUsd: 1000
oracleDivergenceBps: 500
oracleStaleMinutes: 5
rpcOutageMinutes: 5
minSolBalance: 2
hardPauseSolBalance: 1
minSolFloorLamports: 100000000
priorityFeeMicroLamports: 10000
pollIntervalSec: 30
feeCollectionMode: on_rebalance
feeHandling: compound
rpcPrimary: https://primary
rpcFallback: https://fallback
keyfilePath: key
statePath: state
killSwitchFilePath: kill
heartbeatPath: heartbeat
notifier:
  telegram:
    botToken: token
    chatIdInfo: \"1\"
    chatIdCritical: \"1\"
dryRun: false
"

def completedLibrary : Library where
  parseYaml text :=
    if text = completedText then .ok (.map (botSchema.parsed (playedEntries true)))
    else playedLibrary.parseYaml text
  stringifyYaml _ := completedText
  isUrl := playedLibrary.isUrl

/-- A document without a venue loads with one, and then stays as it is. -/
theorem played_settles : (playedEntries true).lookup "venue" = none ∧
    ∃ doc, loadConfig completedLibrary (playedText true) = .ok doc ∧
      (∃ s : Settings completedLibrary, s.document = doc) ∧
      loadConfig completedLibrary completedText = .ok doc := by
  have hne : playedText true ≠ completedText := by
    intro heq
    have hbytes := congrArg PauseSwitch.firstEntry heq
    revert hbytes
    decide +kernel
  have hread : completedLibrary.parseYaml (playedText true) = .ok (.map (playedEntries true)) := by
    simp [completedLibrary, playedLibrary, hne]
  have hissues : botIssues completedLibrary (playedEntries true) = [] := by decide +kernel
  have hdoc : loadConfig completedLibrary (playedText true) =
      .ok (botSchema.parsed (playedEntries true)) := by
    simp only [loadConfig, hread, if_pos hissues]
  have hcompleted : completedLibrary.parseYaml completedText =
      .ok (.map (botSchema.parsed (playedEntries true))) := by
    simp [completedLibrary]
  obtain ⟨hsettings, hagain⟩ := loaded_settles (by decide +kernel) hdoc
  exact ⟨by decide +kernel, _, hdoc, hsettings, hagain _ hcompleted⟩

end ConfigSchema
