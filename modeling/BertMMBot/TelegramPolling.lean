import BertMMBot.AsyncContract
import BertMMBot.TextInput

/-! # The long poll for updates

The commander asks for the updates from its offset on and hands them over one by one. The
offset moves before a handler runs, so an update whose handler throws is not asked for again,
while the rest of its batch is. -/
namespace TelegramPolling

open AsyncProgram AsyncContract

structure Message where
  messageId : ℤ
  chat : ℤ
  sender : Option ℤ
  text : Option String
  deriving DecidableEq, Repr

/-- `message` is the chat of the message with the button. -/
structure CallbackQuery where
  id : String
  sender : ℤ
  message : Option ℤ
  data : Option String
  deriving DecidableEq, Repr

structure Update where
  updateId : ℕ
  message : Option Message
  callbackQuery : Option CallbackQuery
  deriving DecidableEq, Repr

structure IncomingMessage where
  chatId : ℤ
  userId : ℤ
  text : String
  messageId : ℤ
  deriving DecidableEq, Repr

structure ParsedCallback where
  id : String
  userId : ℤ
  chatId : ℤ
  data : String
  deriving DecidableEq, Repr

/-- The user is the sender, or the chat where there is none. An empty text counts as none. -/
def Message.incoming (msg : Message) : Option IncomingMessage :=
  match msg.text with
  | none => none
  | some text =>
    if text = "" then none
    else some ⟨msg.chat, msg.sender.getD msg.chat, TextInput.trim text, msg.messageId⟩

def CallbackQuery.parsed (cb : CallbackQuery) : Option ParsedCallback :=
  match cb.message, cb.data with
  | some chat, some data => if data = "" then none else some ⟨cb.id, cb.sender, chat, data⟩
  | _, _ => none

def Update.incoming (u : Update) : Option IncomingMessage := u.message.bind Message.incoming

/-- Whether there is something to dispatch: a button or a message with text. -/
def Update.carries (u : Update) : Bool := u.callbackQuery.isSome || u.incoming.isSome

inductive UpdatesAnswer where
  | non2xx
  | body (ok : Bool) (result : Option (List Update))

inductive PollQuery where
  | getUpdates (offset : ℕ) (timeoutS : ℕ) (allowed : List String)
  | dispatch (msg : IncomingMessage)
  | callbackRouter (q : ParsedCallback)
  | answerCallbackQuery (id : String)
  | sleep (ms : ℕ)
  | setImmediate

def pollInterface : Interface where
  Choice := Empty
  Outcome _ := Unit
  Query := PollQuery
  Reply
    | .getUpdates _ _ _ => UpdatesAnswer
    | _ => Unit

inductive PollEvent where
  | delivered (batch : List Update)
  | dispatched (u : Update)
  | settled (u : Update)
  deriving DecidableEq, Repr

structure Stream where
  updates : List Update
  increasing : updates.Pairwise fun u v => u.updateId < v.updateId

/-- `log` is a ghost, newest first. -/
structure Commander where
  offset : ℕ
  running : Bool
  arrived : Stream
  log : List PollEvent

def Commander.seek (offset : ℕ) (s : Commander) : Commander := { s with offset }

def Commander.note (e : PollEvent) (s : Commander) : Commander := { s with log := e :: s.log }

def pollIntervalMs : ℕ := 5000
def pollTimeoutS : ℕ := 30

variable {ε : Type}

abbrev Poll (ε : Type) := Async pollInterface Commander ε

def call (q : PollQuery) : Poll ε (pollInterface.Reply q) := Async.call (I := pollInterface) q

/-- Marks in the log that a handler has the update, until it returns or throws. -/
def handling (u : Update) (m : Poll ε Unit) : Poll ε Unit := do
  Async.modify (Commander.note (.dispatched u))
  tryCatch m fun e => do
    Async.modify (Commander.note (.settled u))
    throw e
  Async.modify (Commander.note (.settled u))

variable (hasRouter : Bool)

/-- The answer to the button is sent whatever happens, and its failures are swallowed. -/
def dispatchCallback (cb : CallbackQuery) : Poll ε Unit := do
  tryCatch
    (match cb.parsed with
    | none => pure ()
    | some parsed => if hasRouter then call (.callbackRouter parsed) else pure ())
    fun _ => pure ()
  tryCatch (call (.answerCallbackQuery cb.id)) fun _ => pure ()

def handleUpdate (u : Update) : Poll ε Unit := do
  Async.modify (Commander.seek (u.updateId + 1))
  match u.callbackQuery with
  | some cb => handling u (dispatchCallback hasRouter cb)
  | none =>
    match u.incoming with
    | none => pure ()
    | some msg => handling u (call (.dispatch msg))

def allowedUpdates : List String :=
  if hasRouter then ["message", "callback_query"] else ["message"]

def pollOnce : Poll ε Unit :=
  tryCatch
    (do
      let offset ← Async.read Commander.offset
      match ← call (.getUpdates offset pollTimeoutS (allowedUpdates hasRouter)) with
      | .body true (some batch) =>
        Async.modify (Commander.note (.delivered batch))
        Async.forEach batch (handleUpdate hasRouter)
        call .setImmediate
      | _ => call (.sleep pollIntervalMs))
    fun _ => call (.sleep pollIntervalMs)

/-- So many passes of `while (this.running)`. -/
def pollLoop : ℕ → Poll ε Unit
  | 0 => pure ()
  | n + 1 => do
    if ← Async.read Commander.running then
      pollOnce hasRouter
      pollLoop n
    else pure ()

/-- Meanwhile later updates may arrive and the loop may be told to stop. -/
structure Serves (s s' : Commander) : Prop where
  offset : s'.offset = s.offset
  log : s'.log = s.log
  arrived : s.arrived.updates <+: s'.arrived.updates

def pendingFrom (offset : ℕ) (arrived : Stream) : List Update :=
  arrived.updates.filter fun u => offset ≤ u.updateId

/-- A batch is the beginning of what is pending. Anything may fail at any time. -/
def telegram (ε : Type) : Host pollInterface Commander ε where
  choose _ _ _ := True
  respond
    | .getUpdates offset _ _, s, a, s' => Serves s s' ∧
      ∀ batch, a = .ok (.body true (some batch)) → batch <+: pendingFrom offset s'.arrived
    | _, s, _, s' => Serves s s'

/-- A point that the commander can reach. -/
inductive Reaches {α : Type} : Run pollInterface Commander ε α → Run pollInterface Commander ε α →
    Prop where
  | refl (r) : Reaches r r
  | await {q s k a s' r} : (telegram ε).respond q s a s' → Reaches (k a s') r →
      Reaches (.await q s k) r

def dispatches (log : List PollEvent) : List Update :=
  log.filterMap fun
    | .dispatched u => some u
    | _ => none

def delivered (log : List PollEvent) : List Update :=
  log.flatMap fun
    | .delivered batch => batch
    | _ => []

/-- Ids increase from dispatch to dispatch, no dispatch begins before the last is settled, and
none while an earlier delivered update with something to dispatch was passed over. -/
structure Orderly (log : List PollEvent) : Prop where
  increasing : (dispatches log).Pairwise fun later earlier => earlier.updateId < later.updateId
  one_at_a_time : ∀ later u past, log = later ++ .dispatched u :: past →
    ∀ v ∈ dispatches past, .settled v ∈ past
  no_gap : ∀ later u past, log = later ++ .dispatched u :: past →
    ∀ v ∈ delivered past, v.updateId < u.updateId → v.carries = true → v ∈ dispatches past

variable {log : List PollEvent} {u : Update} {batch : List Update} {s s' t : Commander}

theorem orderly_nil : Orderly [] := by
  constructor
  · exact List.Pairwise.nil
  · intro later u past h
    simp at h
  · intro later u past h
    simp at h

theorem Orderly.note_delivered (h : Orderly log) (batch : List Update) :
    Orderly (.delivered batch :: log) := by
  constructor
  · exact h.increasing
  · intro later u past hlog
    cases later with
    | nil => cases hlog
    | cons e later => exact h.one_at_a_time later u past (List.cons.inj hlog).2
  · intro later u past hlog
    cases later with
    | nil => cases hlog
    | cons e later => exact h.no_gap later u past (List.cons.inj hlog).2

theorem Orderly.note_settled (h : Orderly log) (u : Update) : Orderly (.settled u :: log) := by
  constructor
  · exact h.increasing
  · intro later u past hlog
    cases later with
    | nil => cases hlog
    | cons e later => exact h.one_at_a_time later u past (List.cons.inj hlog).2
  · intro later u past hlog
    cases later with
    | nil => cases hlog
    | cons e later => exact h.no_gap later u past (List.cons.inj hlog).2

theorem Orderly.note_dispatched (h : Orderly log)
    (hnew : ∀ v ∈ dispatches log, v.updateId < u.updateId ∧ .settled v ∈ log)
    (hgap : ∀ v ∈ delivered log, v.updateId < u.updateId → v.carries = true → v ∈ dispatches log) :
    Orderly (.dispatched u :: log) := by
  constructor
  · exact List.Pairwise.cons (fun v hv => (hnew v hv).1) h.increasing
  · intro later u' past hlog
    cases later with
    | nil =>
      cases hlog
      exact fun v hv => (hnew v hv).2
    | cons e later => exact h.one_at_a_time later u' past (List.cons.inj hlog).2
  · intro later u' past hlog
    cases later with
    | nil =>
      cases hlog
      exact hgap
    | cons e later => exact h.no_gap later u' past (List.cons.inj hlog).2

/-- Between two turns: `batch` is what is left of the batch, `flight` the update that a handler
has. -/
structure Between (flight : Option Update) (batch : List Update) (s : Commander) : Prop where
  orderly : Orderly s.log
  pending : batch <+: pendingFrom s.offset s.arrived
  dispatched : ∀ v ∈ dispatches s.log,
    v.updateId < s.offset ∧ (flight = some v ∨ .settled v ∈ s.log)
  delivered : ∀ v ∈ delivered s.log,
    v ∈ s.arrived.updates ∧ (v.updateId < s.offset → v.carries = true → v ∈ dispatches s.log)

variable {flight : Option Update}

theorem Between.serves (h : Between flight batch s) (hs : Serves s s') :
    Between flight batch s' := by
  obtain ⟨hoffset, hlog, harrived⟩ := hs
  constructor
  · rw [hlog]
    exact h.orderly
  · rw [hoffset]
    exact h.pending.trans (harrived.filter _)
  · rw [hlog, hoffset]
    exact h.dispatched
  · rw [hlog, hoffset]
    intro v hv
    exact ⟨harrived.subset (h.delivered v hv).1, (h.delivered v hv).2⟩

theorem Between.abandon (h : Between flight batch s) : Between flight [] s :=
  ⟨h.orderly, List.nil_prefix, h.dispatched, h.delivered⟩

theorem Between.first (h : Between flight (u :: batch) s) :
    u ∈ s.arrived.updates ∧ s.offset ≤ u.updateId ∧
      (∀ v ∈ s.arrived.updates, s.offset ≤ v.updateId → v = u ∨ u.updateId < v.updateId) ∧
      batch <+: pendingFrom (u.updateId + 1) s.arrived := by
  obtain ⟨rest, hrest⟩ := h.pending
  have hsorted := s.arrived.increasing.filter fun v => decide (s.offset ≤ v.updateId)
  have hpending : s.arrived.updates.filter (fun v => decide (s.offset ≤ v.updateId)) =
      u :: (batch ++ rest) := hrest.symm
  have hmem : ∀ v, v ∈ s.arrived.updates ∧ s.offset ≤ v.updateId ↔ v ∈ u :: (batch ++ rest) := by
    intro v
    rw [← hpending, List.mem_filter, decide_eq_true_iff]
  rw [hpending] at hsorted
  obtain ⟨hfirst, -⟩ := List.pairwise_cons.mp hsorted
  have hu := (hmem u).mpr (List.mem_cons_self ..)
  refine ⟨hu.1, hu.2, ?_, rest, ?_⟩
  · intro v hv hoffset
    rcases List.mem_cons.mp ((hmem v).mp ⟨hv, hoffset⟩) with hvu | hv
    · exact .inl hvu
    · exact .inr (hfirst v hv)
  · have hrefine : pendingFrom (u.updateId + 1) s.arrived =
        (s.arrived.updates.filter fun v => decide (s.offset ≤ v.updateId)).filter
          fun v => decide (u.updateId + 1 ≤ v.updateId) := by
      unfold pendingFrom
      rw [List.filter_filter]
      apply List.filter_congr
      intro v _
      have hle := hu.2
      by_cases hv : u.updateId + 1 ≤ v.updateId
      · have hv' : s.offset ≤ v.updateId := by omega
        simp [hv, hv']
      · simp [hv]
    rw [hrefine, hpending, List.filter_cons_of_neg (by simp)]
    symm
    apply List.filter_eq_self.mpr
    intro v hv
    exact decide_eq_true (hfirst v hv)

theorem Between.seek (h : Between none (u :: batch) s) (hskip : u.carries = false) :
    Between none batch (s.seek (u.updateId + 1)) := by
  obtain ⟨hu, hle, hfirst, hrest⟩ := h.first
  constructor
  · exact h.orderly
  · exact hrest
  · intro v hv
    obtain ⟨hlt, hsettled⟩ := h.dispatched v hv
    refine ⟨?_, hsettled⟩
    change v.updateId < u.updateId + 1
    omega
  · intro v hv
    obtain ⟨hmem, hdone⟩ := h.delivered v hv
    refine ⟨hmem, fun hlt hcarries => ?_⟩
    by_cases hv' : v.updateId < s.offset
    · exact hdone hv' hcarries
    · rcases hfirst v hmem (by omega) with hvu | hvu
      · rw [hvu, hskip] at hcarries
        cases hcarries
      · change v.updateId < u.updateId + 1 at hlt
        omega

theorem Between.dispatch (h : Between none (u :: batch) s) :
    Between (some u) batch ((s.seek (u.updateId + 1)).note (.dispatched u)) := by
  obtain ⟨hu, hle, hfirst, hrest⟩ := h.first
  have hearlier : ∀ v ∈ dispatches s.log, v.updateId < u.updateId ∧ .settled v ∈ s.log := by
    intro v hv
    obtain ⟨hlt, hsettled⟩ := h.dispatched v hv
    exact ⟨by omega, hsettled.resolve_left nofun⟩
  constructor
  · apply h.orderly.note_dispatched hearlier
    intro v hv hlt hcarries
    obtain ⟨hmem, hdone⟩ := h.delivered v hv
    apply hdone _ hcarries
    by_contra hge
    rcases hfirst v hmem (by omega) with hvu | hvu
    · rw [hvu] at hlt
      omega
    · omega
  · exact hrest
  · intro v hv
    rcases List.mem_cons.mp hv with hvu | hv
    · rw [hvu]
      exact ⟨Nat.lt_succ_self _, .inl rfl⟩
    · obtain ⟨hlt, hsettled⟩ := hearlier v hv
      exact ⟨Nat.lt_succ_of_lt hlt, .inr (List.mem_cons_of_mem _ hsettled)⟩
  · intro v hv
    obtain ⟨hmem, hdone⟩ := h.delivered v hv
    refine ⟨hmem, fun hlt hcarries => ?_⟩
    change v.updateId < u.updateId + 1 at hlt
    by_cases hv' : v.updateId < s.offset
    · exact List.mem_cons_of_mem _ (hdone hv' hcarries)
    · rcases hfirst v hmem (by omega) with hvu | hvu
      · rw [hvu]
        exact List.mem_cons_self ..
      · omega

theorem Between.settle (h : Between (some u) batch s) : Between none batch (s.note (.settled u)) := by
  constructor
  · exact h.orderly.note_settled u
  · exact h.pending
  · intro v hv
    obtain ⟨hlt, hflight⟩ := h.dispatched v hv
    refine ⟨hlt, .inr ?_⟩
    rcases hflight with hvu | hsettled
    · cases hvu
      exact List.mem_cons_self ..
    · exact List.mem_cons_of_mem _ hsettled
  · exact h.delivered

theorem Between.deliver (h : Between none [] s) (hbatch : batch <+: pendingFrom s.offset s.arrived) :
    Between none batch (s.note (.delivered batch)) := by
  constructor
  · exact h.orderly.note_delivered batch
  · exact hbatch
  · intro v hv
    obtain ⟨hlt, hflight⟩ := h.dispatched v hv
    exact ⟨hlt, .inr (List.mem_cons_of_mem _ (hflight.resolve_left nofun))⟩
  · intro v hv
    rcases List.mem_append.mp hv with hnew | hold
    · obtain ⟨hmem, hle⟩ := List.mem_filter.mp (hbatch.subset hnew)
      have hle := of_decide_eq_true hle
      refine ⟨hmem, fun hlt _ => ?_⟩
      change v.updateId < s.offset at hlt
      omega
    · exact h.delivered v hold

def polling (ε : Type) : Contract pollInterface Commander ε where
  choose _ _ _ := True
  stop _ s := Orderly s.log
  suspend _ _ s := Orderly s.log
  resume := (telegram ε).respond

theorem serves_of_respond {q : PollQuery} {a} (h : (telegram ε).respond q s a s') : Serves s s' := by
  cases q with
  | getUpdates offset timeoutS allowed => exact h.1
  | _ => exact h

theorem call_safe {q : PollQuery} (h : Between flight batch s) :
    Safe (polling ε) (call q s) t fun _ _ s' => Between flight batch s' :=
  ⟨h.orderly, fun _ _ hr => h.serves (serves_of_respond hr)⟩

theorem dispatchCallback_safe (hasRouter : Bool) (cb : CallbackQuery)
    (h : Between flight batch s) :
    Safe (polling ε) (dispatchCallback hasRouter cb s) t fun _ _ s' => Between flight batch s' := by
  have hrouted : Safe (polling ε) ((match cb.parsed with
      | none => pure ()
      | some parsed => if hasRouter then call (.callbackRouter parsed) else pure () :
        Poll ε Unit) s) t fun _ _ s' => Between flight batch s' := by
    cases cb.parsed with
    | none => exact h
    | some parsed =>
      cases hasRouter with
      | false => exact h
      | true => exact call_safe h
  have hanswered : ∀ s t, Between flight batch s →
      Safe (polling ε) ((tryCatch (call (.answerCallbackQuery cb.id)) fun _ => pure () :
        Poll ε Unit) s) t fun _ _ s' => Between flight batch s' := by
    intro s t hs
    refine safe_handle.mpr ((call_safe hs).mono ?_)
    intro t x s' hs'
    cases x with
    | ok a => exact hs'
    | error e => exact hs'
  refine safe_bind.mpr (safe_handle.mpr (hrouted.mono ?_))
  intro t x s' hs'
  cases x with
  | ok a => exact hanswered s' t hs'
  | error e => exact hanswered s' t hs'

theorem handling_safe {m : Poll ε Unit} (h : Between none (u :: batch) s)
    (hm : ∀ s t, Between (some u) batch s →
      Safe (polling ε) (m s) t fun _ _ s' => Between (some u) batch s') :
    Safe (polling ε) (handling u m (s.seek (u.updateId + 1))) t
      fun _ _ s' => Between none batch s' := by
  refine safe_bind.mpr (safe_modify.mpr (andThen_ok.mpr (safe_bind.mpr (safe_handle.mpr
    ((hm _ _ h.dispatch).mono ?_)))))
  intro t x s' hs'
  cases x with
  | ok a => exact hs'.settle
  | error e => exact hs'.settle

theorem handleUpdate_safe (hasRouter : Bool) (h : Between none (u :: batch) s) :
    Safe (polling ε) (handleUpdate hasRouter u s) t fun _ _ s' => Between none batch s' := by
  unfold handleUpdate
  refine safe_bind.mpr ?_
  cases hcb : u.callbackQuery with
  | some cb => exact handling_safe h fun s t hs => dispatchCallback_safe hasRouter cb hs
  | none =>
    cases hmsg : u.incoming with
    | none => exact h.seek (by simp [Update.carries, hcb, hmsg])
    | some msg => exact handling_safe h fun s t hs => call_safe hs

theorem batch_safe (hasRouter : Bool) (batch : List Update) (h : Between none batch s) :
    Safe (polling ε) (Async.forEach batch (handleUpdate hasRouter) s) t
      fun _ _ s' => Between none [] s' := by
  induction batch generalizing s t with
  | nil => exact h
  | cons u batch ih =>
    refine safe_bind.mpr ((handleUpdate_safe hasRouter h).mono ?_)
    intro t x s' hs'
    cases x with
    | ok a => exact ih hs'
    | error e => exact hs'.abandon

def passed : Commander → Except ε Unit → Commander → Prop :=
  andThen (fun _ _ s' => Between none [] s') fun t _ s' =>
    Safe (polling ε) ((call (.sleep pollIntervalMs) : Poll ε Unit) s') t
      fun _ _ s' => Between none [] s'

theorem passed_safe {r : Run pollInterface Commander ε Unit}
    (h : Safe (polling ε) r t fun _ _ s' => Between none [] s') :
    Safe (polling ε) r t passed := by
  refine h.mono ?_
  intro t x s' hs'
  cases x with
  | ok a => exact hs'
  | error e => exact call_safe hs'

theorem delivery_safe (hasRouter : Bool) (h : Between none batch (s.note (.delivered batch))) :
    Safe (polling ε) ((do
      Async.modify (Commander.note (.delivered batch))
      Async.forEach batch (handleUpdate hasRouter)
      call .setImmediate : Poll ε Unit) s) t passed := by
  refine safe_bind.mpr (safe_modify.mpr (andThen_ok.mpr (safe_bind.mpr
    ((batch_safe hasRouter batch h).mono ?_))))
  intro t x s₁ hs₁
  cases x with
  | error e => exact call_safe hs₁
  | ok a => exact passed_safe (call_safe hs₁)

theorem pollOnce_safe (hasRouter : Bool) (h : Between none [] s) :
    Safe (polling ε) (pollOnce hasRouter s) t fun _ _ s' => Between none [] s' := by
  have hslept : ∀ s t, Between none [] s →
      Safe (polling ε) ((call (.sleep pollIntervalMs) : Poll ε Unit) s) t passed :=
    fun s t hs => passed_safe (call_safe hs)
  refine safe_handle.mpr (safe_bind.mpr ⟨h.orderly, ?_⟩)
  intro answer s' hr
  have hs' := h.serves hr.1
  rcases answer with e | ok
  · exact call_safe hs'
  rcases ok with _ | ⟨_ | _, _ | batch⟩
  · exact hslept s' s' hs'
  · exact hslept s' s' hs'
  · exact hslept s' s' hs'
  · exact hslept s' s' hs'
  · have hbatch : batch <+: pendingFrom s'.offset s'.arrived := by
      rw [hr.1.offset]
      exact hr.2 batch rfl
    exact delivery_safe hasRouter (hs'.deliver hbatch)

theorem pollLoop_safe (hasRouter : Bool) (n : ℕ) (h : Between none [] s) :
    Safe (polling ε) (pollLoop hasRouter n s) t fun _ _ s' => Between none [] s' := by
  induction n generalizing s t with
  | zero => exact h
  | succ n ih =>
    unfold pollLoop
    refine safe_bind.mpr ?_
    cases hrun : s.running with
    | false => simpa [hrun] using h
    | true =>
      simp only [Async.read, andThen_ok, safe_done, hrun, if_true]
      refine safe_bind.mpr ((pollOnce_safe hasRouter h).mono ?_)
      intro t x s' hs'
      cases x with
      | ok a => exact ih hs'
      | error e => exact hs'

theorem reaches_safe {α : Type} {r r' : Run pollInterface Commander ε α}
    {post : Commander → Except ε α → Commander → Prop} (hr : Reaches r r')
    (h : Safe (polling ε) r t post) : ∃ t', Safe (polling ε) r' t' post := by
  induction hr generalizing t with
  | refl r => exact ⟨t, h⟩
  | await ha _ ih => exact ih (h.2 _ _ ha)

/-- The commander before its first pass, at whatever has arrived. -/
structure Starts (s : Commander) : Prop where
  offset : s.offset = 0
  log : s.log = []

theorem Starts.between (h : Starts s) : Between none [] s := by
  constructor
  · rw [h.log]
    exact orderly_nil
  · exact List.nil_prefix
  · rw [h.log]
    intro v hv
    cases hv
  · rw [h.log]
    intro v hv
    cases hv

/-- At every point of every run of the loop, whatever arrives, however it is batched and
whatever fails, the updates have been dispatched in turn. -/
theorem updates_in_turn (hasRouter : Bool) (n : ℕ) (s : Commander) (h : Starts s)
    (r : Run pollInterface Commander ε Unit) (hr : Reaches (pollLoop hasRouter n s) r) :
    Orderly r.state.log := by
  obtain ⟨t, hsafe⟩ := reaches_safe hr (pollLoop_safe (t := s) hasRouter n h.between)
  cases r with
  | done x s => exact hsafe.orderly
  | sync c s k => exact c.elim
  | await q s k => exact hsafe.1

def photo : Update := ⟨1, some ⟨1, 7, none, none⟩, none⟩
def balance : Update := ⟨2, some ⟨2, 7, some 7, some "/balance"⟩, none⟩
def stats : Update := ⟨3, some ⟨3, 7, some 7, some "/stats"⟩, none⟩

def feed : Commander := ⟨0, true, ⟨[photo, balance, stats], by decide⟩, []⟩

/-- Serves all that is pending; the handler of `/balance` throws. -/
def faulty : Script pollInterface Commander String where
  choose c := c.elim
  respond
    | .getUpdates offset _ _, s => (.ok (.body true (some (pendingFrom offset s.arrived))), s)
    | .dispatch msg, s => (if msg.text = "/balance" then .error "no user" else .ok (), s)
    | .callbackRouter _, s | .answerCallbackQuery _, s | .sleep _, s | .setImmediate, s =>
      (.ok (), s)

theorem Serves.refl (s : Commander) : Serves s s := ⟨rfl, rfl, List.prefix_rfl⟩

theorem faulty_follows (q : PollQuery) (s : Commander) :
    (telegram String).respond q s (faulty.respond q s).1 (faulty.respond q s).2 := by
  cases q with
  | getUpdates offset timeoutS allowed =>
    refine ⟨Serves.refl s, fun batch h => ?_⟩
    cases h
    exact List.prefix_rfl
  | _ => exact Serves.refl s

theorem settle_self {α : Type} (r : Run pollInterface Commander String α) :
    faulty.settle r = r := by
  cases r with
  | sync c s k => exact c.elim
  | _ => rfl

theorem Reaches.answer {α : Type} {r r' : Run pollInterface Commander String α}
    (h : Reaches r r') : Reaches r (faulty.answer r') := by
  induction h with
  | refl r =>
    cases r with
    | done x s => exact .refl _
    | sync c s k => exact c.elim
    | await q s k =>
      rw [Script.answer, settle_self]
      exact .await (faulty_follows q s) (.refl _)
  | await ha _ ih => exact .await ha ih

theorem awaits_reaches {α : Type} (r : Run pollInterface Commander String α) (n : ℕ) :
    Reaches r (faulty.awaits r n) := by
  induction n with
  | zero =>
    rw [Script.awaits, settle_self]
    exact .refl r
  | succ n ih => exact ih.answer

def faultyPoint (n : ℕ) : Run pollInterface Commander String Unit :=
  faulty.awaits (pollLoop true 2 feed) n

theorem feed_starts : Starts feed := ⟨rfl, rfl⟩

/-- The photo was delivered first and has nothing to dispatch. -/
theorem photo_skipped : ∃ r : Run pollInterface Commander String Unit,
    Reaches (pollLoop true 2 feed) r ∧
    ∃ past, r.state.log = .dispatched balance :: past ∧ photo ∈ delivered past ∧
      photo.updateId < balance.updateId ∧ photo ∉ dispatches past :=
  ⟨faultyPoint 1, awaits_reaches _ _, [.delivered [photo, balance, stats]], by decide +kernel,
    by decide, by decide, by decide⟩

/-- After the throw the tail comes back in the next batch. -/
theorem updates_in_turn_faulty : Starts feed ∧
    (faultyPoint 4).state.log = [.dispatched stats, .delivered [stats], .settled balance,
      .dispatched balance, .delivered [photo, balance, stats]] ∧
    Orderly (faultyPoint 4).state.log :=
  ⟨feed_starts, by decide +kernel,
    updates_in_turn true 2 feed feed_starts (faultyPoint 4) (awaits_reaches _ _)⟩

end TelegramPolling
