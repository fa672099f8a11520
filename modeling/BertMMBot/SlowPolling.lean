import BertMMBot.RebalanceLimits
import BertMMBot.SustainedMoves
import Mathlib.Data.List.Triplewise

/-! # A loop that is too slow to rebalance

The loop sleeps until a poll interval has passed since the start of its tick, and so takes at
most one sample per interval. The strategy wants as many samples as there are minutes to wait:
with intervals of more than a minute it may never get them. -/
namespace SlowPolling

open AsyncProgram AsyncContract AsyncRecords RecordedTriples RecordedOutcomes
open VaultTypes VaultProgram BotProgram Rebalancer Strategy MainLoop SustainedMoves
open MeteoraPosition (PositionSnapshot)
open MakerBounds (RecordedTick hostDeps)
open OracleStaleness PlayedBot

/-- The times, latest first, stand at least a period apart. -/
def Apart (period : ℤ) (times : List ℤ) : Prop :=
  times.Pairwise fun later earlier => earlier + period ≤ later

theorem apart_span {period lo hi : ℤ} {times : List ℤ} (hapart : Apart period times)
    (hne : times ≠ []) (hwithin : ∀ t ∈ times, lo ≤ t ∧ t ≤ hi) :
    (times.length - 1) * period ≤ hi - lo := by
  induction times generalizing hi with
  | nil => exact absurd rfl hne
  | cons t ts ih =>
    obtain ⟨hfirst, hrest⟩ := List.pairwise_cons.mp hapart
    obtain ⟨hlo, hhi⟩ := hwithin t (List.mem_cons_self ..)
    cases ts with
    | nil =>
      simp only [List.length_cons, List.length_nil]
      push_cast
      linarith
    | cons u us =>
      have hspan : (((u :: us).length : ℤ) - 1) * period ≤ (t - period) - lo := by
        apply ih hrest (List.cons_ne_nil _ _)
        intro x hx
        have hbefore := hfirst x hx
        exact ⟨(hwithin x (List.mem_cons_of_mem t hx)).1, by linarith⟩
      have hlength : ((t :: u :: us).length : ℤ) = (u :: us).length + 1 := by
        rw [List.length_cons]
        push_cast
        rfl
      rw [hlength]
      linarith [add_mul (((u :: us).length : ℤ) - 1) 1 period]

variable {cfg : MainConfig} {looks : List Look} {b : BotWorld} {mid : Option MidPrice} {t : ℤ}

def pollMs (cfg : MainConfig) : ℤ := cfg.maker.pollIntervalSec * 1000

/-- The loop looks at the oracle once per poll interval. -/
def Paced (cfg : MainConfig) (looks : List Look) : Prop := Apart (pollMs cfg) (looks.map Look.start)

/-- The minutes to wait are over before there are as many samples. -/
def Slow (cfg : MainConfig) : Prop :=
  (cfg.maker.sustainedMinutes : ℤ) * minuteMs < (cfg.maker.sustainedMinutes - 1) * pollMs cfg

theorem mids_apart (hpaced : Paced cfg looks)
    (hstamped : ∀ l ∈ looks, ∀ m ∈ l.mid, m.ts = l.start) :
    Apart (pollMs cfg) ((mids looks).map MidPrice.ts) := by
  have hsub : ((mids looks).map MidPrice.ts).Sublist (looks.map Look.start) := by
    clear hpaced
    induction looks with
    | nil => exact .slnil
    | cons l ls ih =>
      have hrest := ih fun x hx => hstamped x (List.mem_cons_of_mem l hx)
      cases hmid : l.mid with
      | none =>
        simp only [mids, List.filterMap_cons, hmid, List.map_cons]
        exact hrest.cons _
      | some m =>
        have hts := hstamped l (List.mem_cons_self ..) m hmid
        simp only [mids, List.filterMap_cons, hmid, List.map_cons, hts]
        exact hrest.cons_cons _
  exact hpaced.sublist hsub

theorem paced_sparse (hslow : Slow cfg) (hpaced : Paced cfg looks)
    (hstamped : ∀ l ∈ looks, ∀ m ∈ l.mid, m.ts = l.start) (hlast : ∀ l ∈ looks, l.start ≤ t) :
    Sparse cfg t looks := by
  have hpoll : 0 ≤ pollMs cfg := by
    unfold pollMs
    positivity
  unfold Slow at hslow
  have hwait : 0 < cfg.maker.sustainedMinutes := by
    by_contra hzero
    have hnone : cfg.maker.sustainedMinutes = 0 := by omega
    rw [hnone] at hslow
    push_cast at hslow
    linarith
  unfold Sparse
  by_contra hdense
  rw [not_lt] at hdense
  have happart : Apart (pollMs cfg)
      (((kept looks).filter fun m => cutoff cfg t ≤ m.ts).map MidPrice.ts) := by
    have hsub : ((kept looks).filter fun m => cutoff cfg t ≤ m.ts).Sublist (mids looks) :=
      List.filter_sublist.trans (List.take_sublist _ _)
    exact (mids_apart hpaced hstamped).sublist (hsub.map _)
  have hwithin : ∀ x ∈ ((kept looks).filter fun m => cutoff cfg t ≤ m.ts).map MidPrice.ts,
      cutoff cfg t ≤ x ∧ x ≤ t := by
    intro x hx
    obtain ⟨m, hm, rfl⟩ := List.mem_map.mp hx
    obtain ⟨hkept, hrecent⟩ := List.mem_filter.mp hm
    obtain ⟨l, hl, hmid⟩ := List.mem_filterMap.mp (List.mem_of_mem_take hkept)
    refine ⟨by simpa using hrecent, ?_⟩
    rw [hstamped l hl m hmid]
    exact hlast l hl
  have hne : ((kept looks).filter fun m => cutoff cfg t ≤ m.ts).map MidPrice.ts ≠ [] := by
    intro hnil
    have hlength := congrArg List.length hnil
    rw [List.length_map, List.length_nil] at hlength
    omega
  have hspan := apart_span happart hne hwithin
  rw [List.length_map] at hspan
  have hcount : (cfg.maker.sustainedMinutes : ℤ) - 1 ≤
      ((kept looks).filter fun m => cutoff cfg t ≤ m.ts).length - 1 := by
    have hcast : (cfg.maker.sustainedMinutes : ℤ) ≤
        ((kept looks).filter fun m => cutoff cfg t ≤ m.ts).length := by exact_mod_cast hdense
    linarith
  have hmore := mul_le_mul_of_nonneg_right hcount hpoll
  have hwindow : t - cutoff cfg t = cfg.maker.sustainedMinutes * minuteMs := by
    unfold cutoff
    ring
  linarith

/-- After any looks of a loop that is too slow, nothing is decided that moves a position. -/
theorem slow_never_rebalances (hslow : Slow cfg) (hlooks : Looks cfg (⟨t, mid⟩ :: looks) b)
    (hpaced : Paced cfg (⟨t, mid⟩ :: looks)) (killed : Bool) (position : Option PositionSnapshot)
    {b' : BotWorld} (hsame : history b' = history b) (reason : Reason) (newCenterUsd : ℚ) :
    Strategy.decide (readState t killed mid position b') (strategyParams cfg.maker) ≠
      .rebalance reason newCenterUsd := by
  intro hdecide
  obtain ⟨hhist, hstamped⟩ := looks_history hlooks
  have hlast : ∀ l ∈ ⟨t, mid⟩ :: looks, l.start ≤ t := by
    have hpoll : 0 ≤ pollMs cfg := by
      unfold pollMs
      positivity
    intro l hl
    rcases List.mem_cons.mp hl with rfl | hl
    · exact le_rfl
    · have hbefore := (List.pairwise_cons.mp hpaced).1 l.start (List.mem_map_of_mem hl)
      simp only at hbefore
      linarith
  obtain ⟨-, -, -, -, -, henough, -⟩ := decide_rebalance_samples hdecide
  have hasked : (readState t killed mid position b').priceHistory =
      (kept (⟨t, mid⟩ :: looks)).reverse := hsame.trans hhist
  rw [recentSamples_length _ hasked] at henough
  exact absurd henough (not_le.mpr (paced_sparse hslow hpaced hstamped hlast))

def slowMain : MainConfig :=
  { playedMain with maker := { playedConfig with sustainedMinutes := 5, pollIntervalSec := 300 } }

def slowLook (t : ℤ) (b : BotWorld) : BotWorld :=
  ((aboveRange t).script.play (readOracle slowMain t b)).2

theorem slow_look (h : Looks slowMain looks b)
    (hmid : ((aboveRange t).script.play (readOracle slowMain t b)).1 = .ok (some (midAbove t))) :
    Looks slowMain (⟨t, some (midAbove t)⟩ :: looks) (slowLook t b) := by
  have hends := (aboveRange t).ends (readOracle slowMain t) b
  rw [hmid] at hends
  apply Looks.looked h _ hends
  intro s a s' hanswer
  cases hanswer
  rfl

/-- Five minutes out of range, and two samples to show for it: the position stays. -/
theorem slow_never_rebalances_twice :
    Strategy.decide (readState 300000 false (some (midAbove 300000)) (some trackedPosition)
      (slowLook 300000 (slowLook 0 tracking))) (strategyParams slowMain.maker) ≠
        .rebalance .triggersCleared (midAbove 300000).bertUsd := by
  have hfirst : Looks slowMain [⟨0, some (midAbove 0)⟩] (slowLook 0 tracking) :=
    slow_look (.started rfl) (by decide +kernel)
  have hsecond : Looks slowMain [⟨300000, some (midAbove 300000)⟩, ⟨0, some (midAbove 0)⟩]
      (slowLook 300000 (slowLook 0 tracking)) := slow_look hfirst (by decide +kernel)
  have hslow : Slow slowMain := by
    unfold Slow
    decide +kernel
  have hpaced : Paced slowMain [⟨300000, some (midAbove 300000)⟩, ⟨0, some (midAbove 0)⟩] := by
    unfold Paced Apart
    decide +kernel
  exact slow_never_rebalances hslow hsecond hpaced false _ rfl _ _

abbrev Diary := History Unit Unit botInterface BotWorld Thrown

inductive Mark where
  | read (t : ℤ)
  | slept (ms : ℤ)
  deriving DecidableEq

def mark : Entry Unit Unit botInterface BotWorld Thrown → Option Mark
  | .choice _ (.vault .clock) _ t => some (.read t)
  | .answer _ (.sleep ms) _ _ => some (.slept ms)
  | _ => none

def marks (h : Diary) : List Mark := h.filterMap mark

/-- Whatever the clock showed before a sleep, it shows that much more after it. -/
def Passes : Mark → Mark → Mark → Prop
  | .read t, .slept ms, .read r => r + ms ≤ t
  | _, _, _ => True

instance : ∀ a b c, Decidable (Passes a b c)
  | .read t, .slept ms, .read r => inferInstanceAs (Decidable (r + ms ≤ t))
  | .read _, .slept _, .slept _ => .isTrue trivial
  | .read _, .read _, _ => .isTrue trivial
  | .slept _, _, _ => .isTrue trivial

/-- Every sleep lasts as long as it was asked to. -/
def Rested (h : Diary) : Prop := (marks h).Triplewise Passes

section Ticks

variable {H : BotHost} {deps : MainDeps} {starts : List ℤ} {p p' : Point Unit Unit botInterface
  BotWorld Thrown} {h h₀ : Diary}

/-- What is on record stays on record. -/
def Extends (h₀ h : Diary) : Prop := h₀ <:+ h

theorem Extends.marks (hext : Extends h₀ h) : marks h₀ <:+ marks h := by
  obtain ⟨more, rfl⟩ := hext
  exact ⟨SlowPolling.marks more, (List.filterMap_append ..).symm⟩

theorem Rested.older (hrested : Rested h) (hext : Extends h₀ h) : Rested h₀ := by
  obtain ⟨more, hmore⟩ := hext.marks
  unfold Rested at hrested
  rw [← hmore, List.triplewise_append] at hrested
  exact hrested.2.1

def anyBounds : AsyncWiring.Bounds botInterface BotWorld Unit :=
  ⟨fun _ => True, fun _ => True, fun _ => ()⟩

theorem outcome_extends {α : Type} (m : Process α) :
    Outcome H () (fun p => Extends h₀ p.2) m (fun _ p => Extends h₀ p.2)
      (fun p => Extends h₀ p.2) := by
  have hkept : Undisturbed H () anyBounds fun p => Extends h₀ p.2 := by
    constructor
    case local_ => exact fun _ hp => hp
    case choice => exact fun _ _ hp => hp.trans (List.suffix_cons _ _)
    case call =>
      exact fun _ _ hp => hp.trans ((List.suffix_cons _ _).trans (List.suffix_cons _ _))
  exact outcome_within hkept (AsyncWiring.within_any (fun _ => trivial) (fun _ => trivial) m)

/-- A tick that began at `t` has slept until its interval was over. -/
def Slept (cfg : MainConfig) (t : ℤ) (h : Diary) : Prop :=
  ∃ ms r, [Mark.slept ms, .read r].Sublist (marks h) ∧ t + pollMs cfg ≤ r + ms

theorem Slept.extends (hslept : Slept cfg t h₀) (hext : Extends h₀ h) : Slept cfg t h := by
  obtain ⟨ms, r, hsub, hr⟩ := hslept
  exact ⟨ms, r, hsub.trans hext.marks.sublist, hr⟩

def started (b : BotWorld) (h₀ : Diary) (t : ℤ) : Diary := .choice () (.vault .clock) b t :: h₀

theorem outcome_tick_sleeps (b : BotWorld) (h₀ : Diary) :
    Outcome H () (fun p => p = (b, h₀)) (tick deps cfg)
      (fun _ p => ∃ t, Extends (started b h₀ t) p.2 ∧ Slept cfg t p.2)
      (fun p => ∃ t, Extends (started b h₀ t) p.2 ∧ Slept cfg t p.2) := by
  apply Outcome.bind (B := fun t p => Extends (started b h₀ t) p.2)
  · apply outcome_choose
    rintro _ _ t hp _
    cases hp
    exact List.suffix_rfl
  intro t
  have hbody : Outcome H () (fun p => Extends (started b h₀ t) p.2)
      (tryCatch (tickBody deps cfg t) fun e => notify .warn (.tickFailed e))
      (fun _ p => Extends (started b h₀ t) p.2) (fun _ => False) := by
    apply (outcome_extends (tickBody deps cfg t)).tryCatch
    intro e
    exact (outcome_extends (BotProgram.ask (.post .warn (.tickFailed e)))).tryCatch
      fun _ => outcome_pure fun p hp => hp
  apply (hbody.mono (fun _ hp => hp) (fun _ _ hp => hp) fun _ hp => hp.elim).bind
  intro _
  apply Outcome.bind (B := fun ms p => Extends (started b h₀ t) p.2 ∧ [Mark.read ms].Sublist (marks p.2))
  · apply outcome_choose
    intro s h ms hp _
    exact ⟨hp.trans (List.suffix_cons _ _), (List.nil_sublist _).cons_cons _⟩
  intro ms
  apply outcome_call
  rintro s h s' a ⟨hp, hread⟩ _
  have hwait := le_max_right 0 ((cfg.maker.pollIntervalSec : ℤ) * 1000 - (ms - t))
  have hext : ∀ wait : ℤ, Extends (started b h₀ t)
      (.answer () (.sleep wait) a s' :: .call () (.sleep wait) s :: h) :=
    fun wait => hp.trans ((List.suffix_cons _ _).trans (List.suffix_cons _ _))
  have hslept : ∀ wait : ℤ, (cfg.maker.pollIntervalSec : ℤ) * 1000 - (ms - t) ≤ wait →
      Slept cfg t (.answer () (.sleep wait) a s' :: .call () (.sleep wait) s :: h) := by
    intro wait hlong
    refine ⟨wait, ms, hread.cons_cons _, ?_⟩
    unfold pollMs
    linarith
  cases a with
  | ok _ => exact ⟨t, hext _, hslept _ hwait⟩
  | error e => exact ⟨t, hext _, hslept _ hwait⟩

/-- A run of ticks, with their starts, latest first. -/
inductive TickRun (H : BotHost) (deps : MainDeps) (cfg : MainConfig) :
    List ℤ → Point Unit Unit botInterface BotWorld Thrown → Prop where
  | idle (b : BotWorld) : TickRun H deps cfg [] (b, [])
  | tick {starts : List ℤ} {p p' : Point Unit Unit botInterface BotWorld Thrown} {t : ℤ} :
      TickRun H deps cfg starts p → RecordedTick H deps cfg p p' →
      Extends (started p.1 p.2 t) p'.2 → TickRun H deps cfg (t :: starts) p'

theorem started_unique {b : BotWorld} {t t' : ℤ} (ht : Extends (started b h₀ t) h)
    (ht' : Extends (started b h₀ t') h) : t = t' := by
  obtain ⟨newer, hnewer⟩ := ht
  obtain ⟨newer', hnewer'⟩ := ht'
  have heq := List.append_inj_right' (hnewer.trans hnewer'.symm) rfl
  have hline := (List.cons.inj heq).1
  cases hline
  rfl

theorem tickRun_slept (hrun : TickRun H deps cfg starts p) : ∀ t ∈ starts, Slept cfg t p.2 := by
  induction hrun with
  | idle b => simp
  | @tick starts p p' t _ htick hstart ih =>
    obtain ⟨x, hends⟩ := htick
    have hend := (outcome_tick_sleeps p.1 p.2).ends rfl hends
    have hslept : ∃ t', Extends (started p.1 p.2 t') p'.2 ∧ Slept cfg t' p'.2 := by
      cases x with
      | ok _ => exact hend
      | error e => exact hend
    obtain ⟨t', hstart', hslept⟩ := hslept
    obtain rfl := started_unique hstart hstart'
    have hbefore : Extends p.2 p'.2 := (List.suffix_cons _ _).trans hstart
    exact List.forall_mem_cons.mpr ⟨hslept, fun u hu => (ih u hu).extends hbefore⟩

/-- However long a tick takes, and however it ends, the next one starts no earlier than a poll
interval after it. -/
theorem ticks_paced (hrun : TickRun H deps cfg starts p) (hrested : Rested p.2) :
    Apart (pollMs cfg) starts := by
  induction hrun with
  | idle b => exact .nil
  | @tick starts p p' t hrun htick hstart ih =>
    have hbefore : Extends p.2 p'.2 := (List.suffix_cons _ _).trans hstart
    refine List.pairwise_cons.mpr ⟨?_, ih (hrested.older hbefore)⟩
    intro u hu
    obtain ⟨ms, r, hsub, hpoll⟩ := tickRun_slept hrun u hu
    have hstarted : (Mark.read t :: marks p.2).Triplewise Passes := hrested.older hstart
    have hpasses : [Mark.slept ms, .read r].Pairwise (Passes (.read t)) :=
      (List.triplewise_cons.mp hstarted).1.sublist hsub
    have hslept : Passes (.read t) (.slept ms) (.read r) := List.pairwise_pair.mp hpasses
    change r + ms ≤ t at hslept
    linarith

end Ticks

def anyHost : BotHost := ⟨fun _ _ _ => True, fun _ _ _ _ => True⟩

def tickAt (clock : ℤ) (p : Point Unit Unit botInterface BotWorld Thrown) :
    Point Unit Unit botInterface BotWorld Thrown :=
  (BotScene.recording { vault := { clock } }).play
    (recorded () (tick (hostDeps blindLibrary flatVenue) playedMain p.1) p.2) |>.2

theorem tickAt_records (clock : ℤ) (p : Point Unit Unit botInterface BotWorld Thrown) :
    RecordedTick anyHost (hostDeps blindLibrary flatVenue) playedMain p (tickAt clock p) := by
  have hfollows : (BotScene.recording (ι := Unit) (J := Unit) { vault := { clock } }).Follows
      (recordedHost anyHost) fun _ _ => true := ⟨fun _ _ _ => trivial, fun _ _ => ⟨trivial, rfl⟩⟩
  exact ⟨_, play_ends hfollows (Script.meets_any _ _)⟩

def firstPoint : Point Unit Unit botInterface BotWorld Thrown := tickAt 1000 (botWith [] none, [])

def secondPoint : Point Unit Unit botInterface BotWorld Thrown := tickAt 31000 firstPoint

theorem two_ticks_paced : Apart (pollMs playedMain) [31000, 1000] := by
  have hfirst : TickRun anyHost (hostDeps blindLibrary flatVenue) playedMain [1000] firstPoint :=
    .tick (.idle _) (tickAt_records 1000 _) ⟨firstPoint.2.take 8, rfl⟩
  have hsecond : TickRun anyHost (hostDeps blindLibrary flatVenue) playedMain [31000, 1000]
      secondPoint := .tick hfirst (tickAt_records 31000 _) ⟨secondPoint.2.take 8, rfl⟩
  have hmarks : marks secondPoint.2 = [.slept 30000, .read 31000, .read 31000, .slept 30000,
      .read 1000, .read 1000] := by decide +kernel
  have hrested : Rested secondPoint.2 := by
    unfold Rested
    rw [hmarks]
    simp [List.triplewise_cons, Passes]
  exact ticks_paced hsecond hrested

end SlowPolling
