import Gatehouse.Script.Run

/-! # From steps to scripts

A script is run step by step, and what every step keeps the whole script keeps. `Keeps R w` says
that a run of the work `w` ends in a state that is `R`-related to the one that it began in;
`Stepwise R give` says so of each kind of step, and `Stepwise.execWith` of every script.

Two relations are used again and again: scopes are left as often as they are entered
(`length_alarms_exec`), and the status kept on the run is that of the last response start
that the receiver was handed (`noted_exec`). -/

namespace Gatehouse.Run

/-- The work leads from each run to one that stands in `R` to it. -/
def Keeps (R : Run → Run → Prop) (w : Work) : Prop := ∀ r, R r (w r).1

/-- `R` is kept by each kind of step, where `give` takes the messages. -/
structure Stepwise (R : Run → Run → Prop) (give : Message → Work) : Prop where
  refl : ∀ r, R r r
  trans : ∀ {a b c}, R a b → R b c → R a c
  suspend : ∀ seconds, Keeps R (suspend seconds)
  give : ∀ m, Keeps R (give m)
  mark : ∀ name, Keeps R (mark name)
  scope : ∀ limit {w}, Keeps R w → Keeps R (scope limit w)

namespace Stepwise

variable {R : Run → Run → Prop} {give : Message → Work}

theorem andThen (h : Stepwise R give) {v w : Work} (hv : Keeps R v) (hw : Keeps R w) :
    Keeps R (Work.andThen v w) := by
  intro r
  have h₁ := hv r
  unfold Work.andThen
  split <;> rename_i e <;> rw [e] at h₁
  · exact h.trans h₁ (hw _)
  · exact h₁

theorem handle (h : Stepwise R give) {caught : List String} {handler : String → Work}
    (hh : ∀ name, Keeps R (handler name)) (result : Run × Outcome) :
    R result.1 (handle caught handler result).1 := by
  obtain ⟨r, out⟩ := result
  cases out with
  | ok => exact h.refl r
  | error f =>
    show R r (if caught.contains f.name then handler f.name r else (r, .error f)).1
    split
    · exact hh f.name r
    · exact h.refl r

theorem cleanUp {cleanup : Work} (hc : Keeps R cleanup) (result : Run × Outcome) :
    R result.1 (cleanUp cleanup result).1 := by
  have h₁ := hc result.1
  unfold Run.cleanUp
  split <;> rename_i e <;> rwa [e] at h₁

theorem recover (h : Stepwise R give) {caught : List String} {body cleanup : Work}
    {handler : String → Work} (hb : Keeps R body) (hh : ∀ name, Keeps R (handler name))
    (hc : Keeps R cleanup) : Keeps R fun r => recover caught handler cleanup (body r) := by
  intro r
  exact h.trans (h.trans (hb r) (h.handle hh _)) (cleanUp hc _)

theorem execWith (h : Stepwise R give) (script : Script) : Keeps R (execWith give script) := by
  induction script with
  | done => exact h.refl
  | sleep seconds next ih => exact h.andThen (h.suspend seconds) ih
  | send message next ih => exact h.andThen (h.give message) ih
  | fail failure => exact h.refl
  | mark name next ih => exact h.andThen (h.mark name) ih
  | within limit body next ihb ih => exact h.andThen (h.scope limit ihb) ih
  | attempt body caught handler cleanup next ihb ihh ihc ih =>
    exact h.andThen (h.recover ihb ihh ihc) ih

end Stepwise

/-! ### What single steps change -/

/-- Only the turn, the cancellation from outside, the requests and the alarms change, and no alarm
comes or goes. -/
theorem suspend_frame (seconds : Rat) (r : Run) :
    ∃ waking interrupt requests alarms, alarms.length = r.alarms.length ∧
      (suspend seconds r).1 = { r with waking, interrupt, requests, alarms } := by
  have resumed : ∀ waking isDue (s : Run), ∃ waking' interrupt requests alarms,
      alarms.length = s.alarms.length ∧
        (resume waking isDue s).1 =
          { s with waking := waking', interrupt, requests, alarms } := by
    intro waking isDue s
    exact ⟨_, _, _, _, by simp, rfl⟩
  unfold suspend
  dsimp only
  split
  · rename_i stop _
    split
    · exact resumed _ _ r
    · exact resumed stop.next (fun t => t < Moment.soon stop.time)
        { r with interrupt := none, requests := r.requests + 1 }
  · exact resumed _ _ r

theorem sent_suspend (seconds : Rat) (r : Run) : (suspend seconds r).1.sent = r.sent := by
  obtain ⟨_, _, _, _, _, e⟩ := suspend_frame seconds r
  rw [e]

theorem status_suspend (seconds : Rat) (r : Run) : (suspend seconds r).1.status = r.status := by
  obtain ⟨_, _, _, _, _, e⟩ := suspend_frame seconds r
  rw [e]

theorem finish_frame (sink : Receiver) (call : Nat) (m : Message) (r : Run) :
    ∃ sent, (finish sink call m r).1 = { r with sent } ∧
      ((finish sink call m r).2 = .ok () ∧ sent = r.sent ++ [⟨r.now, m⟩] ∨
        (∃ f, (finish sink call m r).2 = .error f) ∧ sent = r.sent) := by
  unfold finish
  split
  · exact ⟨_, rfl, .inr ⟨⟨_, rfl⟩, rfl⟩⟩
  · exact ⟨_, rfl, .inl ⟨rfl, rfl⟩⟩

theorem wait_frame (sink : Receiver) (r : Run) :
    ∃ waking interrupt requests alarms, alarms.length = r.alarms.length ∧
      (wait sink r).1 = { r with waking, interrupt, requests, alarms } := by
  unfold wait
  cases sink.delay with
  | none => exact ⟨_, _, _, _, rfl, rfl⟩
  | some seconds => exact suspend_frame seconds r

/-- The message is handed over at once; it is delivered if and only if the call succeeds. -/
theorem send_frame (sink : Receiver) (m : Message) (r : Run) :
    ∃ waking interrupt requests alarms sent, alarms.length = r.alarms.length ∧
      (send sink m r).1 =
        { r with waking, interrupt, requests, alarms, sent, handed := r.handed ++ [⟨r.now, m⟩] } ∧
      ((send sink m r).2 = .ok () ∧ sent = r.sent ++ [⟨waking.time, m⟩] ∨
        (∃ f, (send sink m r).2 = .error f) ∧ sent = r.sent) := by
  let handed := r.handed ++ [⟨r.now, m⟩]
  obtain ⟨w, i, q, a, ha, hw⟩ := wait_frame sink { r with handed }
  cases ho : wait sink { r with handed } with
  | mk s out =>
    rw [ho] at hw
    dsimp only at hw
    subst hw
    cases out with
    | error f =>
      have e : send sink m r = _ := Work.andThen_of_error ho
      rw [e]
      exact ⟨w, i, q, a, _, ha, rfl, .inr ⟨⟨f, rfl⟩, rfl⟩⟩
    | ok =>
      have e : send sink m r = _ := Work.andThen_of_ok ho
      rw [e]
      obtain ⟨sent, hs, ho'⟩ := finish_frame sink handed.length m _
      exact ⟨w, i, q, a, sent, ha, hs, ho'⟩

theorem handed_send (sink : Receiver) (m : Message) (r : Run) :
    (send sink m r).1.handed = r.handed ++ [⟨r.now, m⟩] := by
  obtain ⟨_, _, _, _, _, _, e, _⟩ := send_frame sink m r
  rw [e]

theorem status_send (sink : Receiver) (m : Message) (r : Run) :
    (send sink m r).1.status = r.status := by
  obtain ⟨_, _, _, _, _, _, e, _⟩ := send_frame sink m r
  rw [e]

theorem marks_send (sink : Receiver) (m : Message) (r : Run) :
    (send sink m r).1.marks = r.marks := by
  obtain ⟨_, _, _, _, _, _, e, _⟩ := send_frame sink m r
  rw [e]

theorem sent_send (sink : Receiver) (m : Message) (r : Run) :
    (send sink m r).2 = .ok () ∧
        (send sink m r).1.sent = r.sent ++ [⟨(send sink m r).1.now, m⟩] ∨
      (∃ f, (send sink m r).2 = .error f) ∧ (send sink m r).1.sent = r.sent := by
  obtain ⟨_, _, _, _, _, _, e, ho⟩ := send_frame sink m r
  rw [e]
  exact ho

/-- A malformed message is refused and changes nothing; any other sets at most the status. -/
theorem note_cases (m : Message) (r : Run) :
    note m r = ({ r with status := (m.status?.getD r.status) }, .ok ()) ∨
      ∃ f, note m r = (r, .error f) := by
  cases m with
  | start status _ =>
    cases status with
    | none => exact .inr ⟨_, rfl⟩
    | some _ => exact .inl rfl
  | body _ _ => exact .inl rfl
  | other kind =>
    cases kind with
    | none => exact .inr ⟨_, rfl⟩
    | some _ => exact .inl rfl

/-! ### Scopes -/

/-- As many scopes are open as before. -/
def Balanced (a b : Run) : Prop := b.alarms.length = a.alarms.length

theorem balanced_send (sink : Receiver) (m : Message) : Keeps Balanced (send sink m) := by
  intro r
  obtain ⟨_, _, _, _, _, ha, e, _⟩ := send_frame sink m r
  rw [e]
  exact ha

theorem balanced_noteAndSend (sink : Receiver) (m : Message) :
    Keeps Balanced (noteAndSend sink m) := by
  intro r
  obtain e | ⟨_, e⟩ := note_cases m r
  · rw [noteAndSend, Work.andThen_of_ok e]
    exact balanced_send sink m _
  · rw [noteAndSend, Work.andThen_of_error e]
    rfl

theorem balanced_scope (limit : Option Rat) {w : Work} (hw : Keeps Balanced w) :
    Keeps Balanced (scope limit w) := by
  intro r
  have h := hw (r.enter limit)
  show (w (r.enter limit)).1.alarms.tail.length = r.alarms.length
  rw [List.length_tail, h]
  rfl

theorem balanced_steps {give : Message → Work} (hg : ∀ m, Keeps Balanced (give m)) :
    Stepwise Balanced give where
  refl _ := rfl
  trans h₁ h₂ := h₂.trans h₁
  suspend seconds r := by
    obtain ⟨_, _, _, _, ha, e⟩ := suspend_frame seconds r
    rw [e]
    exact ha
  give := hg
  mark _ _ := rfl
  scope limit _ hw := balanced_scope limit hw

/-- A script leaves every scope that it enters. -/
theorem length_alarms_exec (sink : Receiver) (script : Script) (r : Run) :
    (exec sink script r).1.alarms.length = r.alarms.length :=
  (balanced_steps (balanced_noteAndSend sink)).execWith script r

/-! ### The status of the last response start -/

/-- The statuses of the response starts among messages. -/
def starts (messages : List Sent) : List Json :=
  messages.filterMap fun s => s.message.status?

theorem starts_append (a b : List Sent) : starts (a ++ b) = starts a ++ starts b :=
  List.filterMap_append

def lastStatus? (messages : List Sent) : Option Json := (starts messages).getLast?

theorem lastStatus?_concat (messages : List Sent) (s : Sent) :
    lastStatus? (messages ++ [s]) = (s.message.status?).or (lastStatus? messages) := by
  unfold lastStatus?
  rw [starts_append]
  cases h : s.message.status? <;> simp [starts, h]

/-- The status is that of the last response start handed over, and 0 before there is any. -/
def Noted (r : Run) : Prop := r.status = (lastStatus? r.handed).getD (.int 0)

theorem noted_noteAndSend (sink : Receiver) (m : Message) {r : Run} (h : Noted r) :
    Noted (noteAndSend sink m r).1 := by
  obtain e | ⟨_, e⟩ := note_cases m r
  · rw [noteAndSend, Work.andThen_of_ok e]
    unfold Noted
    rw [handed_send, status_send, lastStatus?_concat]
    cases m.status? with
    | none => exact h
    | some status => rfl
  · rw [noteAndSend, Work.andThen_of_error e]
    exact h

theorem noted_steps (sink : Receiver) :
    Stepwise (fun a b => Noted a → Noted b) (noteAndSend sink) where
  refl _ h := h
  trans h₁ h₂ h := h₂ (h₁ h)
  suspend seconds r h := by
    obtain ⟨_, _, _, _, _, e⟩ := suspend_frame seconds r
    rw [e]
    exact h
  give m _ h := noted_noteAndSend sink m h
  mark _ _ h := h
  scope limit _ hw r h := hw (r.enter limit) h

theorem noted_exec (sink : Receiver) (script : Script) {r : Run} (h : Noted r) :
    Noted (exec sink script r).1 :=
  (noted_steps sink).execWith script r h

end Gatehouse.Run
