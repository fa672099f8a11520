import BertMMBot.PlayedBot

/-! # Rate limits of the rebalancer

The daily cap is checked at the time that the row will carry, and nothing else writes the log
before it does; the interval is checked at the start of the tick, which is no later. Both
limits hold of the log after any number of ticks, however long each of them takes. -/
namespace RebalanceLimits

open AsyncProgram AsyncContract AsyncRecords RecordedTriples RecordedOutcomes AsyncWiring
open VaultTypes VaultProgram BotProgram Rebalancer MainLoop MakerBounds LoopWalk PlayedBot
open Strategy (minuteMs)
open MeteoraPosition (PositionSnapshot)

def isDecided : Cause → Bool
  | .initialOpen => false
  | .decided _ => true

/-- A row that stands no closer than the interval to a later row that was decided on. -/
def Spaced (config : BotConfig) (earlier later : LoggedRebalance) : Prop :=
  isDecided later.cause = true →
    earlier.record.ts + config.minRebalanceIntervalMin * minuteMs ≤ later.record.ts

structure Limited (config : BotConfig) (log : List LoggedRebalance) : Prop where
  daily : ∀ day, rebalancesOn day log ≤ config.maxRebalancesPerDay
  spaced : log.Pairwise (Spaced config)

variable {config : BotConfig} {log : List LoggedRebalance}

theorem limited_nil : Limited config [] := ⟨fun _ => Nat.zero_le _, .nil⟩

theorem rebalancesOn_append (day : ℤ) (row : LoggedRebalance) :
    rebalancesOn day (log ++ [row]) =
      rebalancesOn day log + if day = utcDay row.record.ts then 1 else 0 := by
  have hwindow : (day * dayMs ≤ row.record.ts ∧ row.record.ts < day * dayMs + dayMs) ↔
      day = utcDay row.record.ts := by
    simp only [utcDay, dayMs]
    omega
  simp only [rebalancesOn, List.filter_append, List.length_append, List.filter_cons,
    List.filter_nil, decide_eq_true_eq, hwindow]
  split <;> rfl

theorem Limited.append {row : LoggedRebalance} (hlog : Limited config log)
    (hday : rebalancesOn (utcDay row.record.ts) log < config.maxRebalancesPerDay)
    (hspaced : ∀ earlier ∈ log, Spaced config earlier row) : Limited config (log ++ [row]) := by
  constructor
  · intro day
    rw [rebalancesOn_append]
    split
    · next h =>
      subst h
      omega
    · exact hlog.daily day
  · rw [List.pairwise_append]
    refine ⟨hlog.spaced, List.pairwise_singleton .., ?_⟩
    intro earlier hearlier later hlater
    obtain rfl := List.mem_singleton.mp hlater
    exact hspaced earlier hearlier

theorem lastRebalance_bounds {bound : ℤ}
    (h : ∀ last ∈ lastRebalance log, last + config.minRebalanceIntervalMin * minuteMs ≤ bound)
    {row : LoggedRebalance} (hrow : row ∈ log) :
    row.record.ts + config.minRebalanceIntervalMin * minuteMs ≤ bound := by
  have hmem : row.record.ts ∈ log.map fun r => r.record.ts := List.mem_map_of_mem hrow
  cases hmax : lastRebalance log with
  | none =>
    rw [lastRebalance, List.max?_eq_none_iff] at hmax
    rw [hmax] at hmem
    cases hmem
  | some last =>
    have hle : row.record.ts ≤ last := (List.max?_eq_some_iff.mp hmax).2 _ hmem
    have hlast := h last hmax
    omega

variable {ι J : Type} {H : BotHost} {i : ι}

def clockReading : Entry ι J botInterface BotWorld Thrown → Option ℤ
  | .choice _ (.vault .clock) _ o => some o
  | _ => none

def clockReadings (h : History ι J botInterface BotWorld Thrown) : List ℤ :=
  h.filterMap clockReading

def Nondecreasing (h : History ι J botInterface BotWorld Thrown) : Prop :=
  (clockReadings h).Pairwise (· ≥ ·)

theorem Nondecreasing.tail {h : History ι J botInterface BotWorld Thrown}
    {e : Entry ι J botInterface BotWorld Thrown} (hn : Nondecreasing (e :: h)) :
    Nondecreasing h := by
  unfold Nondecreasing clockReadings at hn ⊢
  rw [List.filterMap_cons] at hn
  split at hn
  · exact hn
  · exact hn.of_cons

theorem clockReadings_cons {h : History ι J botInterface BotWorld Thrown} {t : ℤ}
    (e : Entry ι J botInterface BotWorld Thrown) (ht : t ∈ clockReadings h) :
    t ∈ clockReadings (e :: h) := by
  unfold clockReadings at ht ⊢
  rw [List.filterMap_cons]
  split
  · exact ht
  · exact List.mem_cons_of_mem _ ht

theorem Nondecreasing.newest {h : History ι J botInterface BotWorld Thrown} {b : BotWorld}
    {t n : ℤ} (hn : Nondecreasing (.choice i (.vault .clock) b n :: h))
    (ht : t ∈ clockReadings h) : t ≤ n := by
  have hpair : (n :: clockReadings h).Pairwise (· ≥ ·) := hn
  exact (List.pairwise_cons.mp hpair).1 t ht

/-- Whatever else happens during an awaited call, the log is written by rebalances only. -/
def KeepsLog (H : BotHost) : Prop :=
  ∀ q b a b', H.respond q b a b' → b'.rebalanceLog = b.rebalanceLog

/-- The log is `log`, and `P` holds as long as the clock has not gone back. -/
def Holding (log : List LoggedRebalance) (P : Prop) (p : Point ι J botInterface BotWorld Thrown) :
    Prop := p.1.rebalanceLog = log ∧ (Nondecreasing p.2 → P)

/-- The log is within its limits as long as the clock has not gone back. -/
def Kept (config : BotConfig) (p : Point ι J botInterface BotWorld Thrown) : Prop :=
  Nondecreasing p.2 → Limited config p.1.rebalanceLog

theorem Holding.kept {P : Prop} {p : Point ι J botInterface BotWorld Thrown}
    (hp : Holding log P p) (h : P → Limited config log) : Kept config p := by
  intro hn
  rw [hp.1]
  exact h (hp.2 hn)

theorem Holding.imp {P Q : Prop} {p : Point ι J botInterface BotWorld Thrown}
    (hp : Holding log P p) (h : P → Q) : Holding log Q p := ⟨hp.1, fun hn => h (hp.2 hn)⟩

theorem Holding.tell {P : Prop} {b b' : BotWorld}
    {h : History ι J botInterface BotWorld Thrown} {e : Entry ι J botInterface BotWorld Thrown}
    (hp : Holding log P (b, h)) (hlog : b'.rebalanceLog = b.rebalanceLog) :
    Holding log P (b', e :: h) := ⟨hlog.trans hp.1, fun hn => hp.2 hn.tail⟩

theorem Kept.tell {b b' : BotWorld} {h : History ι J botInterface BotWorld Thrown}
    {e : Entry ι J botInterface BotWorld Thrown} (hp : Kept config (b, h))
    (hlog : b'.rebalanceLog = b.rebalanceLog) : Kept config (b', e :: h) := by
  intro hn
  rw [hlog]
  exact hp hn.tail

theorem holding_undisturbed (hH : KeepsLog H) {P : Prop} :
    Undisturbed H i (botBounds true true true) (Holding (ι := ι) (J := J) log P) where
  local_ hview hp := ⟨(congrArg MakerState.rebalanceLog hview).trans hp.1, hp.2⟩
  choice _ _ hp := hp.tell rfl
  call := by
    intro q b a b' h _ hr hp
    have hcalled : Holding log P (b, .call i q b :: h) := hp.tell rfl
    exact hcalled.tell (hH _ _ _ _ hr)

theorem kept_undisturbed (hH : KeepsLog H) :
    Undisturbed H i (botBounds true true true) (Kept (ι := ι) (J := J) config) where
  local_ := by
    intro b b' h hview hp hn
    rw [show b'.rebalanceLog = b.rebalanceLog from congrArg MakerState.rebalanceLog hview]
    exact hp hn
  choice _ _ hp := hp.tell rfl
  call := by
    intro q b a b' h _ hr hp
    have hcalled : Kept config (b, .call i q b :: h) := hp.tell rfl
    exact hcalled.tell (hH _ _ _ _ hr)

section Rebalance

variable {mid : MidPrice} {current : Option PositionSnapshot} {cause : Cause} {t n : ℤ} {P : Prop}

theorem outcome_holding {α : Type} (hH : KeepsLog H) {m : Process α}
    (hm : Within (botBounds true true true) True m) :
    Outcome H i (Holding (ι := ι) (J := J) log P) m (fun _ => Holding log P) (Holding log P) :=
  outcome_within (holding_undisturbed hH) hm

theorem outcome_kept {α : Type} (hH : KeepsLog H) {m : Process α}
    (hm : Within (botBounds true true true) True m) :
    Outcome H i (Kept (ι := ι) (J := J) config) m (fun _ => Kept config) (Kept config) :=
  outcome_within (kept_undisturbed hH) hm

/-- What a row of the time `t` needs to stand in the log. -/
structure Ready (config : BotConfig) (log : List LoggedRebalance) (cause : Cause) (t : ℤ) : Prop where
  limited : Limited config log
  spaced : isDecided cause = true → ∀ row ∈ log,
    row.record.ts + config.minRebalanceIntervalMin * minuteMs ≤ t

theorem Ready.later (h : Ready config log cause t) (htn : t ≤ n) : Ready config log cause n := by
  refine ⟨h.limited, ?_⟩
  intro hdecided row hrow
  have hle := h.spaced hdecided row hrow
  omega

theorem outcome_recordOpened {range : PriceRange} {nftMint : String} :
    Outcome H i (Holding (ι := ι) (J := J) log (Ready config log cause n ∧
        rebalancesOn (utcDay n) log < config.maxRebalancesPerDay))
      (recordOpened n range current nftMint cause) (fun _ => Kept config) (Kept config) := by
  apply Outcome.bind (B := fun _ => Holding log (Ready config log cause n ∧
    rebalancesOn (utcDay n) log < config.maxRebalancesPerDay))
  · apply outcome_botStatement
    · exact fun b h hp => hp.tell rfl
    · intro b h e hp hn
      have hlog : b.rebalanceLog = log := hp.1
      change Limited config b.rebalanceLog
      rw [hlog]
      exact (hp.2 hn.tail).1.limited
  · intro _
    apply outcome_botStatement
    · intro b h hp hn
      obtain ⟨hready, hday⟩ := hp.2 hn.tail
      have hlog : b.rebalanceLog = log := hp.1
      change Limited config (b.rebalanceLog ++ [_])
      rw [hlog]
      exact hready.limited.append hday fun row hrow hdecided => hready.spaced hdecided row hrow
    · intro b h e hp hn
      have hlog : b.rebalanceLog = log := hp.1
      change Limited config b.rebalanceLog
      rw [hlog]
      exact (hp.2 hn.tail).1.limited

theorem outcome_persist (hH : KeepsLog H) {range : PriceRange} {nftMint : String} :
    Outcome H i (Holding (ι := ι) (J := J) log (Ready config log cause n ∧
        rebalancesOn (utcDay n) log < config.maxRebalancesPerDay))
      (persist (hostRebalancer config) n range current nftMint cause)
      (fun _ => Kept config) (Kept config) := by
  apply outcome_ite
  · exact fun _ => outcome_pure fun p hp => hp.kept fun hready => hready.1.limited
  · intro _
    apply Outcome.tryCatch
    · exact outcome_recordOpened.bind fun _ => outcome_pure fun p hp => hp
    · intro e
      apply (outcome_kept hH (within_rollback config nftMint)).bind
      intro _
      exact outcome_kept hH (within_degrade _ _)

theorem outcome_reopen (hH : KeepsLog H) {closeSig : Option Signature} :
    Outcome H i (Holding (ι := ι) (J := J) log (Ready config log cause n ∧
        rebalancesOn (utcDay n) log < config.maxRebalancesPerDay))
      (reopen (hostRebalancer config) n mid current cause closeSig)
      (fun _ => Kept config) (Kept config) := by
  have hkept : ∀ p : Point ι J botInterface BotWorld Thrown, Holding log (Ready config log cause n ∧
      rebalancesOn (utcDay n) log < config.maxRebalancesPerDay) p → Kept config p :=
    fun p hp => hp.kept fun hready => hready.1.limited
  have hsteady : ∀ {β : Type} {m : Process β}, Within (botBounds true true true) True m →
      Outcome H i (Holding (ι := ι) (J := J) log (Ready config log cause n ∧
          rebalancesOn (utcDay n) log < config.maxRebalancesPerDay)) m
        (fun _ => Holding log (Ready config log cause n ∧
          rebalancesOn (utcDay n) log < config.maxRebalancesPerDay)) (Kept config) :=
    fun hm => (outcome_holding hH hm).mono (fun _ hp => hp) (fun _ _ hp => hp) hkept
  apply (hsteady (within_refreshPool config)).bind
  intro _
  apply (hsteady (within_sizePosition config mid closeSig)).bind
  intro sized
  cases sized with
  | error r => exact outcome_pure hkept
  | ok sizing =>
    have hopen : Within (botBounds true true true) True
        (openPosition (hostRebalancer config) mid (newRange (hostRebalancer config) mid) sizing
          closeSig) :=
      within_tryCatch (within_bind (within_submitOpen config mid _ sizing) fun _ => within_pure _)
        fun _ => within_degrade _ _
    apply (hsteady hopen).bind
    intro o
    cases o with
    | error r => exact outcome_pure hkept
    | ok o =>
      apply (outcome_persist hH).bind
      intro saved
      cases saved with
      | error r => exact outcome_pure fun p hp => hp
      | ok _ => exact outcome_kept hH (within_announce config _ _ _ _ o)

theorem outcome_executeRebalance (hH : KeepsLog H) :
    Outcome H i (fun p => t ∈ clockReadings p.2 ∧
        Holding (ι := ι) (J := J) log (Ready config log cause t) p)
      (executeRebalance (hostRebalancer config) mid current cause)
      (fun _ => Kept config) (Kept config) := by
  have hready : ∀ {n : ℤ}, ∀ p : Point ι J botInterface BotWorld Thrown,
      Holding log (Ready config log cause n) p → Kept config p :=
    fun p hp => hp.kept Ready.limited
  apply Outcome.bind (B := fun n => Holding log (Ready config log cause n))
  · apply outcome_choose
    rintro b h n ⟨ht, hlog, hp⟩ _
    exact ⟨hlog, fun hn => (hp hn.tail).later (hn.newest ht)⟩
  intro n
  apply Outcome.bind (B := fun _ => Holding log (Ready config log cause n))
  · exact (outcome_holding hH (within_drawdownBreaker config mid current)).mono (fun _ hp => hp)
      (fun _ _ hp => hp) hready
  intro tripped
  cases tripped with
  | some r => exact outcome_pure hready
  | none =>
    apply Outcome.bind (B := fun today p => today = rebalancesOn (utcDay n) log ∧
      Holding log (Ready config log cause n) p)
    · apply outcome_read
      intro p hp
      exact ⟨congrArg (rebalancesOn (utcDay n)) hp.1, hp⟩
    intro today
    apply outcome_of_fact
    intro htoday
    apply outcome_ite
    · exact fun _ => outcome_pure hready
    · intro hcap
      have hday : rebalancesOn (utcDay n) log < config.maxRebalancesPerDay := by
        rw [← htoday]
        exact Nat.lt_of_not_le hcap
      have hroom : ∀ p : Point ι J botInterface BotWorld Thrown,
          Holding log (Ready config log cause n) p → Holding log (Ready config log cause n ∧
            rebalancesOn (utcDay n) log < config.maxRebalancesPerDay) p :=
        fun p hp => hp.imp fun hn => ⟨hn, hday⟩
      apply ((outcome_holding hH (within_closePosition config current)).mono (fun _ hp => hp)
        (fun _ => hroom) hready).bind
      intro closed
      cases closed with
      | error r => exact outcome_pure fun p hp => hp.kept fun hn => hn.1.limited
      | ok closeSig => exact outcome_reopen hH

end Rebalance

section Tick

variable {library : ConfigFile.Library} {pool : MeteoraPosition.Venue} {cfg : MainConfig} {t : ℤ}

/-- The time `t` has been read, and the log is within its limits. -/
def Since (config : BotConfig) (t : ℤ) (p : Point ι J botInterface BotWorld Thrown) : Prop :=
  t ∈ clockReadings p.2 ∧ Kept config p

theorem since_undisturbed (hH : KeepsLog H) :
    Undisturbed H i (botBounds true true true) (Since (ι := ι) (J := J) config t) where
  local_ hview hp := ⟨hp.1, (kept_undisturbed (i := i) hH).local_ hview hp.2⟩
  choice hc ho hp := ⟨clockReadings_cons _ hp.1, (kept_undisturbed hH).choice hc ho hp.2⟩
  call hq hr hp := ⟨clockReadings_cons _ (clockReadings_cons _ hp.1),
    (kept_undisturbed hH).call hq hr hp.2⟩

theorem outcome_since {α : Type} (hH : KeepsLog H) {m : Process α}
    (hm : Within (botBounds true true true) True m) :
    Outcome H i (Since (ι := ι) (J := J) config t) m (fun _ => Since config t) (Kept config) :=
  (outcome_within (since_undisturbed hH) hm).mono (fun _ hp => hp) (fun _ _ hp => hp)
    fun _ hp => hp.2

theorem kept_leads (hH : KeepsLog H) :
    Leads H i (botBounds true true true) (Kept (ι := ι) (J := J) config) (Kept config) :=
  fun _ hm => outcome_kept hH hm

theorem outcome_rebalance (hH : KeepsLog H) {mid : MidPrice} {current : Option PositionSnapshot}
    {cause : Cause} :
    Outcome H i (fun p => (isDecided cause = true → ∀ row ∈ p.1.rebalanceLog,
        row.record.ts + cfg.maker.minRebalanceIntervalMin * minuteMs ≤ t) ∧
        Since (ι := ι) (J := J) cfg.maker t p)
      (executeRebalance (hostRebalancer cfg.maker) mid current cause)
      (fun _ => Kept cfg.maker) (Kept cfg.maker) := by
  apply outcome_at
  rintro b h ⟨hspaced, ht, hkept⟩
  have hout : Outcome H i (fun p => t ∈ clockReadings p.2 ∧
        Holding (ι := ι) (J := J) b.rebalanceLog (Ready cfg.maker b.rebalanceLog cause t) p)
      (executeRebalance (hostRebalancer cfg.maker) mid current cause)
      (fun _ => Kept cfg.maker) (Kept cfg.maker) := outcome_executeRebalance hH
  apply hout.mono
  · rintro p rfl
    exact ⟨ht, rfl, fun hn => ⟨hkept hn, hspaced⟩⟩
  · exact fun _ p hp => hp
  · exact fun p hp => hp

theorem outcome_tickWithPosition (hH : KeepsLog H) {killed : Bool} {mid : Option MidPrice}
    {row : Option StoredPosition} {position : Option PositionSnapshot} :
    Outcome H i (Since (ι := ι) (J := J) cfg.maker t)
      (tickWithPosition (hostDeps library pool) cfg t killed mid row position)
      (fun _ => Kept cfg.maker) (Kept cfg.maker) := by
  have hheart : Outcome H i (Kept (ι := ι) (J := J) cfg.maker) writeHeartbeat
      (fun _ => Kept cfg.maker) (Kept cfg.maker) := outcome_kept hH within_writeHeartbeat
  apply Outcome.bind (B := fun s p => (s.now = t ∧
    s.lastRebalanceAt = lastRebalance p.1.rebalanceLog) ∧ Since cfg.maker t p)
  · apply outcome_read
    intro p hp
    exact ⟨⟨rfl, rfl⟩, hp⟩
  intro s
  cases hinit : initialMid row s with
  | some mid =>
    have hopen : Outcome H i (fun p => (s.now = t ∧
          s.lastRebalanceAt = lastRebalance p.1.rebalanceLog) ∧
          Since (ι := ι) (J := J) cfg.maker t p)
        (openInitial (hostDeps library pool) cfg mid)
        (fun _ => Kept cfg.maker) (Kept cfg.maker) := by
      apply outcome_openInitial_of observant_botBounds (kept_leads hH)
      refine Outcome.mono (outcome_rebalance (t := t) hH) ?_ (fun _ _ hp => hp) fun _ hp => hp
      rintro p ⟨-, hsince⟩
      exact ⟨(fun h => by cases h), hsince⟩
    exact hopen.bind fun _ => hheart
  | none =>
    have hlooks : Leads H i (botBounds true true true)
        (fun p => (s.now = t ∧ s.lastRebalanceAt = lastRebalance p.1.rebalanceLog) ∧
          Since (ι := ι) (J := J) cfg.maker t p) (Kept cfg.maker) := by
      intro m hm
      exact (outcome_kept hH hm).mono (fun p hp => hp.2.2) (fun _ _ hp => hp) fun _ hp => hp
    have hact : Outcome H i (fun p => (s.now = t ∧
          s.lastRebalanceAt = lastRebalance p.1.rebalanceLog) ∧
          Since (ι := ι) (J := J) cfg.maker t p)
        (actOn (hostDeps library pool) cfg s (Strategy.decide s (strategyParams cfg.maker)))
        (fun _ => Kept cfg.maker) (Kept cfg.maker) := by
      apply outcome_actOn_of observant_botBounds hlooks
      intro reason center mid hdecision _
      obtain ⟨-, -, -, -, hlast, -⟩ := Strategy.decide_rebalance hdecision
      refine Outcome.mono (outcome_rebalance (t := t) hH) ?_ (fun _ _ hp => hp) fun _ hp => hp
      rintro p ⟨⟨hnow, hread⟩, hsince⟩
      rw [hnow, hread] at hlast
      exact ⟨fun _ row hrow => lastRebalance_bounds hlast hrow, hsince⟩
    apply hact.bind
    intro _
    exact (outcome_kept hH (within_vaultPostRebalance library pool cfg _)).bind fun _ => hheart

theorem outcome_tick (hH : KeepsLog H) :
    Outcome H i (Kept (ι := ι) (J := J) cfg.maker) (tick (hostDeps library pool) cfg)
      (fun _ => Kept cfg.maker) (Kept cfg.maker) := by
  have hbody : ∀ tickStart, Outcome H i (Since (ι := ι) (J := J) cfg.maker tickStart)
      (tickBody (hostDeps library pool) cfg tickStart)
      (fun _ => Kept cfg.maker) (Kept cfg.maker) := by
    intro tickStart
    apply (outcome_since hH (within_killSwitchTripped library pool cfg)).bind
    intro killed
    apply (outcome_since hH (within_readOracle cfg tickStart)).bind
    intro mid
    apply (outcome_since hH (within_vaultPreRebalance library pool cfg)).bind
    intro _
    apply (outcome_since hH (within_read _)).bind
    intro row
    apply (outcome_since hH (within_readTracked library pool mid row)).bind
    intro tracked
    cases tracked with
    | rpcFailed =>
      exact (outcome_since hH within_writeHeartbeat).mono (fun _ hp => hp) (fun _ _ hp => hp.2)
        fun _ hp => hp
    | position p => exact outcome_tickWithPosition hH
  apply outcome_tick_of observant_botBounds (kept_leads hH) _ hbody
  apply outcome_choose
  intro b h n hp _
  exact ⟨List.mem_cons_self .., hp.tell rfl⟩

end Tick

/-- As long as the clock does not go back, no day ever holds more rows than the cap, and every
row that was decided on stands the interval apart from all rows before it. -/
theorem ticks_within_limits (hH : KeepsLog H) (library : ConfigFile.Library)
    (pool : MeteoraPosition.Venue) (cfg : MainConfig) {b b' : BotWorld}
    {h : History Unit Unit botInterface BotWorld Thrown} (hb : Limited cfg.maker b.rebalanceLog)
    (hrun : Relation.ReflTransGen (RecordedTick H (hostDeps library pool) cfg) (b, []) (b', h))
    (hclock : Nondecreasing h) : Limited cfg.maker b'.rebalanceLog := by
  have hkept : ∀ p, Relation.ReflTransGen (RecordedTick H (hostDeps library pool) cfg) (b, []) p →
      Kept cfg.maker p := by
    intro p hp
    induction hp with
    | refl => exact fun _ => hb
    | tail _ htick ih =>
      obtain ⟨x, hends⟩ := htick
      have hend := (outcome_tick hH).ends ih hends
      cases x with
      | ok _ => exact hend
      | error e => exact hend
  exact hkept _ hrun hclock

def leavingScene (clock : ℤ) : BotScene where
  vault := {
    clock
    samples := [⟨"dexscreener", 1, 100, 100, 0⟩, ⟨"jupiter", 1, 100, 100, 0⟩] }
  range := ⟨5, 7, 6, 100⟩

def leavingHost : BotHost where
  choose c b o := ∃ clock, (leavingScene clock).host.choose c b o
  respond q b a b' := ∃ clock, (leavingScene clock).host.respond q b a b'

def leavingTick (clock : ℤ) (p : Point Unit Unit botInterface BotWorld Thrown) :
    Point Unit Unit botInterface BotWorld Thrown :=
  ((leavingScene clock).recording.play
    (recorded () (tick (hostDeps blindLibrary flatVenue) playedMain p.1) p.2)).2

theorem leavingTick_records (clock : ℤ) (p : Point Unit Unit botInterface BotWorld Thrown) :
    RecordedTick leavingHost (hostDeps blindLibrary flatVenue) playedMain p
      (leavingTick clock p) := by
  have hfollows : (BotScene.recording (ι := Unit) (J := Unit) (leavingScene clock)).Follows
      (recordedHost leavingHost) fun _ _ => true :=
    ⟨fun _ _ _ => ⟨clock, rfl⟩, fun _ _ => ⟨⟨clock, rfl⟩, rfl⟩⟩
  exact ⟨_, play_ends hfollows (Script.meets_any _ _)⟩

def leavingEnd : Point Unit Unit botInterface BotWorld Thrown :=
  leavingTick 301000 (leavingTick 1000 (botWith [] none, []))

/-- One tick opens a position, and the one five minutes later moves it. -/
theorem leaving_within_limits :
    leavingEnd.1.rebalanceLog.map (fun row => isDecided row.cause) = [false, true] ∧
      Limited playedConfig leavingEnd.1.rebalanceLog := by
  have hrun : Relation.ReflTransGen (RecordedTick leavingHost
      (hostDeps blindLibrary flatVenue) playedMain) (botWith [] none, []) leavingEnd :=
    .tail (.single (leavingTick_records 1000 _)) (leavingTick_records 301000 _)
  have hclock : Nondecreasing leavingEnd.2 := by
    unfold Nondecreasing
    decide +kernel
  have hlog : ∀ q b a b', leavingHost.respond q b a b' → b'.rebalanceLog = b.rebalanceLog := by
    rintro q b a b' ⟨clock, hr⟩
    exact ((leavingScene clock).respond_own hr).1
  exact ⟨by decide +kernel, ticks_within_limits hlog blindLibrary flatVenue playedMain
    limited_nil hrun hclock⟩

end RebalanceLimits
