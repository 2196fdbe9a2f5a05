import Gatehouse.Gateway.Exchange
import Gatehouse.Proofs.Script.Progress

/-! # What the caller receives

A request whose deadline is not due together with its start is done with at once, unless it is
left with work that takes time. If it has come to an answer then the caller receives that answer
(`response_of_answer`), and if it has failed then the caller receives the status of a
breakdown or of a timeout (`status_of_error`). If the deadline is due together with the start then
whatever has to wait is answered by the guard (`response_of_cancelled`), and an answer that is
there already may be cut off before its start or after it (`sent_deliver`). -/

namespace Gatehouse

/-- What a request finds that is not asked for anything but its tables. -/
def Circumstances.sample (store : Store) : Circumstances :=
  ⟨.sinceEntry, store, .error .notCompliant, .initial, 1000, .ok .epoch, ⟨"id", ⟨0, 0⟩⟩⟩

/-- The routes of every deployment, with a documentation that says nothing. -/
def Route.sample : List Route := Route.standard fun _ => ("text/html", "")

namespace Run

variable {r : Run} {due : Option Rat}

theorem suspend_zero (hi : r.interrupt = none) :
    suspend 0 r = resume r.waking.next (fun t => t ≤ r.now) r := by
  rw [suspend_of_unstopped 0 (by rw [hi]; rfl), turnAfter_of_nonpos le_rfl]

theorem suspend_zero_eq (hi : r.interrupt = none) (ha : r.alarms = [⟨due, 0, false⟩])
    (hd : ∀ t ∈ due, ¬t ≤ r.now) :
    suspend 0 r = ({ r with waking := r.waking.next }.hastened, .ok ()) := by
  have hpending : ¬(Alarm.pending ⟨due, 0, false⟩).any (fun t => decide (t ≤ r.now)) = true := by
    cases due with
    | none => exact Bool.false_ne_true
    | some t => simpa [Alarm.pending] using hd t rfl
  have hring : Alarm.ring (fun t => decide (t ≤ r.now)) ⟨due, 0, false⟩ = ⟨due, 0, false⟩ :=
    if_neg hpending
  have hrung : r.dues.filter (fun t => decide (t ≤ r.now)) = [] := by
    unfold dues
    rw [hi, ha]
    cases due with
    | none => rfl
    | some t => simpa [Alarm.pending] using hd t rfl
  rw [suspend_zero hi]
  unfold resume
  simp only [hrung, hi, ha, List.map_cons, List.map_nil, hring, Option.filter_none]
  rfl

/-- A turn under a deadline that is due by now is where it rings. -/
theorem suspend_zero_overdue {t : Rat} (hi : r.interrupt = none)
    (ha : r.alarms = [⟨some t, 0, false⟩]) (hd : t ≤ r.now) :
    (suspend 0 r).2 = .error (.cancelled "") ∧ (suspend 0 r).1.expired = true ∧
      (suspend 0 r).1.requests = r.requests + 1 := by
  have hring : Alarm.ring (fun u => decide (u ≤ r.now)) ⟨some t, 0, false⟩ = ⟨some t, 0, true⟩ :=
    if_pos (by simpa [Alarm.pending] using hd)
  have hrung : r.dues.filter (fun u => decide (u ≤ r.now)) = [t] := by
    unfold dues
    rw [hi, ha]
    simpa [Alarm.pending] using hd
  rw [suspend_zero hi]
  unfold resume
  simp only [hrung, ha, List.map_cons, List.map_nil, hring]
  exact ⟨rfl, rfl, rfl⟩

/-- A deadline that is due together with now is moved to now. -/
theorem hastened_alarms_of_soon {t : Rat} (ha : r.alarms = [⟨some t, 0, false⟩])
    (hnow : r.now < t) (hsoon : t < Moment.soon r.now) :
    r.hastened.alarms = [⟨some r.now, 0, false⟩] := by
  simp [hastened, ha, hnow, hsoon]

/-- Nothing cancels the run by now or by the next moment. -/
structure Calm (due : Option Rat) (r : Run) : Prop where
  interrupt : r.interrupt = none
  alarms : r.alarms = [⟨due, 0, false⟩]
  ahead : ∀ t ∈ due, ¬t ≤ r.now ∧ ¬t < Moment.soon r.now

namespace Calm

theorem expired (h : Calm due r) : r.expired = false := by
  unfold Run.expired
  rw [h.alarms]
  rfl

theorem suspend (h : Calm due r) : (suspend 0 r).2 = .ok () ∧ Calm due (suspend 0 r).1 := by
  have hnow : r.waking.next.time = r.waking.time := Waking.time_next r.waking
  have hdue : due.map (fun t => if r.waking.next.time < t && t < Moment.soon r.waking.next.time
      then r.waking.next.time else t) = due := by
    cases due with
    | none => rfl
    | some t =>
      have hsoon : ¬t < Moment.soon r.waking.next.time := by
        rw [hnow]
        exact (h.ahead t rfl).2
      simp [hsoon]
  rw [suspend_zero_eq h.interrupt h.alarms fun t ht => (h.ahead t ht).1]
  refine ⟨rfl, ?_, ?_, fun t ht => ?_⟩
  · simp [hastened, h.interrupt]
  · show ({ r with waking := r.waking.next } : Run).hastened.alarms = _
    unfold hastened
    simp only [h.alarms, List.map_cons, List.map_nil, now]
    exact congrArg (fun d => [Alarm.mk d 0 false]) hdue
  · show ¬t ≤ r.waking.next.time ∧ ¬t < Moment.soon r.waking.next.time
    rw [hnow]
    exact h.ahead t ht

/-- The caller takes a message of a calm run, which stays calm. -/
theorem send (h : Calm due r) (m : Message) :
    (Run.send Exchange.caller m r).2 = .ok () ∧ Calm due (Run.send Exchange.caller m r).1 ∧
      (Run.send Exchange.caller m r).1.sent.map Sent.message =
        r.sent.map Sent.message ++ [m] := by
  let holding : Run := { r with handed := r.handed ++ [⟨r.now, m⟩] }
  have hholding : Calm due holding := ⟨h.interrupt, h.alarms, h.ahead⟩
  obtain ⟨hok, hcalm⟩ := hholding.suspend
  have hsent := sent_suspend 0 holding
  cases e : Run.suspend 0 holding with
  | mk s out =>
    rw [e] at hok hcalm hsent
    obtain rfl : out = .ok () := hok
    have hsend : Run.send Exchange.caller m r = deliver m s := Work.andThen_of_ok e
    rw [hsend]
    refine ⟨rfl, ⟨hcalm.interrupt, hcalm.alarms, hcalm.ahead⟩, ?_⟩
    have hdelivered : (deliver m s).1.sent = s.sent ++ [⟨s.now, m⟩] := rfl
    rw [hdelivered, hsent, List.map_append]
    rfl

end Calm

end Run

namespace Guard

open Run

theorem guarded_of {sink : Receiver} {budget : Budget} {work : Work} {r r' : Run} {out : Outcome}
    (h : work (r.enter budget.limit?) = (r', out)) :
    guarded sink budget work r =
      if isOverdue r' out then conclude sink budget r'.left
      else ⟨r'.left, r'.translated out, []⟩ := by
  unfold guarded
  rw [h]

theorem conclude_prompt (budget : Budget) {r : Run} (h : r.status.truthy = false) :
    (conclude .prompt budget r).outcome = .ok () ∧
      (conclude .prompt budget r).run.sent.map Sent.message =
        r.sent.map Sent.message ++ [answerStart, answerBody] := by
  obtain ⟨handed, e⟩ : ∃ handed, answer .prompt r =
      ({ r with handed, sent := r.sent ++ [⟨r.now, answerStart⟩] ++ [⟨r.now, answerBody⟩] },
        .ok ()) := ⟨_, rfl⟩
  unfold conclude
  rw [h, e]
  simp

end Guard

namespace Exchange

open Run

variable {s : Settings} {routes : List Route} {c : Circumstances} {r : Request}
variable {context : Fields} {reckoning : Reckoning} {budget : Budget} {time : Rat}

/-- The run of a request before its work. -/
def begun (reckoning : Reckoning) (budget : Budget) (time : Rat) : Run :=
  (Run.begin reckoning (.last time) [] none).enter budget.limit?

theorem plan_requestContext : (requestContext s c r).store.plan = c.store.plan := by
  show (hurried _ c.time c.store).plan = _
  unfold hurried
  split <;> rfl

/-- With time left nothing cancels the run of a request at its start. -/
theorem calm_begun (h : budget.isOver time = false) (reckoning : Reckoning) :
    Calm (budget.limit?.map (Moment.after time)) (begun reckoning budget time) where
  interrupt := rfl
  alarms := rfl
  ahead t ht := by
    obtain ⟨seconds, hs, rfl⟩ := Option.map_eq_some_iff.1 ht
    rw [Budget.isOver, hs] at h
    simp only [Option.any_some, Bool.or_eq_false_iff, decide_eq_false_iff_not] at h
    exact h

/-! ### Answers -/

/-- An answer is delivered at once, in two messages, and the deadline has not passed by then. -/
theorem deliver_begun (h : budget.isOver time = false) (answer : Response) :
    ∃ r, deliver answer (begun reckoning budget time) = (r, .ok ()) ∧ r.expired = false ∧
      r.sent.map Sent.message =
        [.start (some (.int answer.status)) answer.headers, .body answer.body false] := by
  let noted : Run := { begun reckoning budget time with status := .int answer.status }
  have hcalm := calm_begun h reckoning
  have hnoted : Calm (budget.limit?.map (Moment.after time)) noted :=
    ⟨hcalm.interrupt, hcalm.alarms, hcalm.ahead⟩
  obtain ⟨hstart, hcalm, hfirst⟩ :=
    hnoted.send (.start (some (.int answer.status)) answer.headers)
  cases e : send caller (.start (some (.int answer.status)) answer.headers) noted with
  | mk s out =>
    rw [e] at hstart hcalm hfirst
    obtain rfl : out = .ok () := hstart
    obtain ⟨hbody, hcalm', hboth⟩ := hcalm.send (.body answer.body false)
    have hdeliver : deliver answer (begun reckoning budget time) =
        send caller (.body answer.body false) s := Work.andThen_of_ok e
    refine ⟨_, hdeliver.trans (Prod.ext rfl hbody), hcalm'.expired, ?_⟩
    rw [hboth, hfirst]
    rfl

/-- Whatever is due, the answer is delivered as far as it is: as a whole, without its body, or not
at all. -/
theorem sent_deliver (reckoning : Reckoning) (budget : Budget) (time : Rat) (answer : Response) :
    let start : Message := .start (some (.int answer.status)) answer.headers
    let sent := (deliver answer (begun reckoning budget time)).1.sent.map Sent.message
    sent = [] ∨ sent = [start] ∨ sent = [start, .body answer.body false] := by
  intro start sent
  let noted : Run := { begun reckoning budget time with status := .int answer.status }
  have hstart := sent_send caller start noted
  cases e : send caller start noted with
  | mk s out =>
    rw [e] at hstart
    cases out with
    | error f =>
      have hdeliver : deliver answer (begun reckoning budget time) = (s, .error f) :=
        Work.andThen_of_error e
      rcases hstart with ⟨hok, -⟩ | ⟨-, hsent⟩
      · cases hok
      · left
        simp only [sent, hdeliver]
        exact congrArg (List.map Sent.message) hsent
    | ok =>
      have hdeliver : deliver answer (begun reckoning budget time) =
          send caller (.body answer.body false) s := Work.andThen_of_ok e
      have hfirst : s.sent.map Sent.message = [start] := by
        rcases hstart with ⟨-, hsent⟩ | ⟨⟨f, hf⟩, -⟩
        · rw [hsent]
          rfl
        · cases hf
      right
      simp only [sent, hdeliver]
      rcases sent_send caller (.body answer.body false) s with ⟨-, hsent⟩ | ⟨-, hsent⟩
      · right
        rw [hsent, List.map_append, hfirst]
        rfl
      · left
        rw [hsent, hfirst]

theorem hasStarted_eq (sent : List Sent) :
    hasStarted sent = (sent.map Sent.message).any fun m => m.status?.isSome := by
  rw [List.any_map]
  rfl

theorem received_eq (sent : List Sent) :
    received sent = (sent.map Sent.message).foldl (fun r m => match m with
      | .start (some (.int status)) headers =>
        { r with
          status := status.toNat, headers := headers.filter fun h => h.1 != "content-length" }
      | .body text _ => { r with body := r.body ++ text }
      | _ => r) ⟨0, [], ""⟩ := by
  rw [List.foldl_map]
  rfl

theorem status_received (before : List Message) {sent : List Sent} {status : Nat}
    {headers : List (String × String)} {text : String} {more : Bool}
    (h : sent.map Sent.message =
      before ++ [.start (some (.int status)) headers, .body text more]) :
    (received sent).status = status := by
  rw [received_eq, h, List.foldl_append]
  rfl

/-- However the guarded work has ended, what came before it and the moment are kept. -/
structure Frame (reaction : Traced Reaction) (result : Guard.Result) (x : Exchange) : Prop where
  opening : x.opening = reaction.events
  explanations : x.explanations = reaction.explanations
  ended : x.ended = result.run.now

theorem ofResult_frame (reaction : Traced Reaction) (result : Guard.Result) :
    Frame reaction result (ofResult c r context reaction result) := by
  unfold ofResult
  cases result.outcome with
  | error f => exact ⟨rfl, rfl, rfl⟩
  | ok =>
    dsimp only
    split
    · exact ⟨rfl, rfl, rfl⟩
    · exact ⟨rfl, rfl, rfl⟩

/-- Work that has come to its end has answered, if the start of a response has been delivered. -/
theorem ofResult_of_started {reaction : Traced Reaction} {result : Guard.Result}
    (h : result.outcome = .ok ()) (hs : hasStarted result.run.sent = true) :
    (ofResult c r context reaction result).response = withId c r (received result.run.sent) ∧
      (ofResult c r context reaction result).raised = none := by
  simp only [ofResult, h, hs, if_true, and_self]

theorem status_ofResult_ok {reaction : Traced Reaction} {result : Guard.Result} {status : Nat}
    (h : result.outcome = .ok ())
    (hreceived : hasStarted result.run.sent = true → (received result.run.sent).status = status) :
    (ofResult c r context reaction result).response.status = status ∨
      (ofResult c r context reaction result).response.status = 500 := by
  cases hs : hasStarted result.run.sent with
  | true =>
    left
    rw [(ofResult_of_started h hs).1, ← hreceived hs]
    rfl
  | false =>
    right
    simp only [ofResult, h, hs]
    rfl

theorem status_ofResult_error {reaction : Traced Reaction} {result : Guard.Result} {f : Failure}
    (h : result.outcome = .error f) :
    (ofResult c r context reaction result).response.status = 500 := by
  simp only [ofResult, h]
  rfl

/-- What comes of a request that has come to a reaction. -/
def afterReaction (s : Settings) (c : Circumstances) (r : Request) (context : Fields)
    (reaction : Traced Reaction) : Exchange :=
  ofResult c r context (reaction.bound context)
    (Guard.guarded .prompt ((Budgets.ofSettings s).choose r.path)
      (perform s (requestContext s c r).deadline reaction.outcome)
      (Run.begin c.reckoning (.last c.time) [] none))

/-- The exchange of a request follows from the run of what is left to be done on it. -/
theorem afterReaction_of_run {reaction : Traced Reaction} {run : Run} {out : Outcome}
    (hrun : perform s (requestContext s c r).deadline reaction.outcome
      (begun c.reckoning ((Budgets.ofSettings s).choose r.path) c.time) = (run, out)) :
    afterReaction s c r context reaction =
      ofResult c r context (reaction.bound context)
        (if Guard.isOverdue run out then
          Guard.conclude .prompt ((Budgets.ofSettings s).choose r.path) run.left
        else ⟨run.left, run.translated out, []⟩) := by
  have hguarded : Guard.guarded .prompt ((Budgets.ofSettings s).choose r.path)
      (perform s (requestContext s c r).deadline reaction.outcome)
      (Run.begin c.reckoning (.last c.time) [] none) = _ := Guard.guarded_of hrun
  unfold afterReaction
  rw [hguarded]

theorem underDeadline_of_run {outcome : Except Failure Reaction}
    (ho : (Dispatch.dispatch routes (requestContext s c r) c.wall r).outcome = outcome)
    {run : Run} {out : Outcome}
    (hrun : perform s (requestContext s c r).deadline outcome
      (begun c.reckoning ((Budgets.ofSettings s).choose r.path) c.time) = (run, out)) :
    underDeadline s routes c r context =
      ofResult c r context
        ((Dispatch.dispatch routes (requestContext s c r) c.wall r).bound context)
        (if Guard.isOverdue run out then
          Guard.conclude .prompt ((Budgets.ofSettings s).choose r.path) run.left
        else ⟨run.left, run.translated out, []⟩) := by
  subst ho
  exact afterReaction_of_run hrun

/-- An answer as the caller receives it: its length is not told. -/
def lengthless (answer : Response) : Response :=
  { answer with headers := answer.headers.filter fun h => h.1 != "content-length" }

theorem received_answer {sent : List Sent} {answer : Response}
    (h : sent.map Sent.message =
      [.start (some (.int answer.status)) answer.headers, .body answer.body false]) :
    received sent = lengthless answer := by
  rw [received_eq, h]
  simp [lengthless]

/-- A request that has come to an answer is answered so, with its id in the headers. -/
theorem response_afterReaction (h : ((Budgets.ofSettings s).choose r.path).isOver c.time = false)
    {reaction : Traced Reaction} {site : Option Tenant} {answer : Response}
    (ho : reaction.outcome = .ok ⟨site, .answer answer⟩) :
    (afterReaction s c r context reaction).response = withId c r (lengthless answer) ∧
      (afterReaction s c r context reaction).raised = none := by
  obtain ⟨run, hrun, hexpired, hsent⟩ := deliver_begun h answer
  have hpunctual : Guard.isOverdue run (.ok ()) = false := by rw [Guard.isOverdue, hexpired]; rfl
  have hreceived : received run.left.sent = lengthless answer := received_answer hsent
  have hstarted : hasStarted run.left.sent = true := by
    rw [hasStarted_eq, show run.left.sent.map Sent.message = _ from hsent]
    rfl
  have hwork : perform s (requestContext s c r).deadline reaction.outcome
      (begun c.reckoning ((Budgets.ofSettings s).choose r.path) c.time) = (run, .ok ()) := by
    rw [ho]
    exact hrun
  rw [afterReaction_of_run hwork, hpunctual, ← hreceived]
  exact ofResult_of_started rfl hstarted

theorem response_of_answer (h : ((Budgets.ofSettings s).choose r.path).isOver c.time = false)
    {site : Option Tenant} {answer : Response}
    (ho : (Dispatch.dispatch routes (requestContext s c r) c.wall r).outcome =
      .ok ⟨site, .answer answer⟩) :
    (underDeadline s routes c r context).response = withId c r (lengthless answer) ∧
      (underDeadline s routes c r context).raised = none :=
  response_afterReaction h ho

theorem status_of_answer (h : ((Budgets.ofSettings s).choose r.path).isOver c.time = false)
    {site : Option Tenant} {answer : Response}
    (ho : (Dispatch.dispatch routes (requestContext s c r) c.wall r).outcome =
      .ok ⟨site, .answer answer⟩) :
    (underDeadline s routes c r context).response.status = answer.status := by
  rw [(response_of_answer h ho).1]
  rfl

/-- Under any deadline a request that has come to an answer receives its status, or that of a
breakdown or a timeout. -/
theorem status_of_answer_cases {site : Option Tenant} {answer : Response}
    (ho : (Dispatch.dispatch routes (requestContext s c r) c.wall r).outcome =
      .ok ⟨site, .answer answer⟩) :
    (underDeadline s routes c r context).response.status = answer.status ∨
      (underDeadline s routes c r context).response.status = 500 ∨
      (underDeadline s routes c r context).response.status = 504 := by
  let budget := (Budgets.ofSettings s).choose r.path
  have hsent := sent_deliver c.reckoning budget c.time answer
  cases hrun : deliver answer (begun c.reckoning budget c.time) with
  | mk run out =>
    rw [hrun] at hsent
    have hreceived (hs : hasStarted run.left.sent = true) :
        (received run.left.sent).status = answer.status := by
      show (received run.sent).status = _
      rcases hsent with h | h | h
      · rw [hasStarted_eq, show run.left.sent.map Sent.message = [] from h] at hs
        cases hs
      · rw [received_eq, h]
        rfl
      · exact status_received [] h
    have answered {x : Exchange} (h : x.response.status = answer.status ∨ x.response.status = 500) :
        x.response.status = answer.status ∨ x.response.status = 500 ∨ x.response.status = 504 :=
      h.imp_right .inl
    rw [underDeadline_of_run ho hrun]
    split
    · cases hs : run.left.status.truthy with
      | true =>
        rw [Guard.conclude, if_pos hs]
        exact answered (status_ofResult_ok rfl hreceived)
      | false =>
        obtain ⟨hok, hmessages⟩ := Guard.conclude_prompt budget hs
        exact .inr (status_ofResult_ok hok fun _ => status_received _ hmessages).symm
    · cases he : run.translated out with
      | ok =>
        exact answered (status_ofResult_ok rfl hreceived)
      | error f => exact .inr (.inl (status_ofResult_error rfl))

/-! ### Failures -/

/-- The work fails whatever it finds, before it starts to answer. -/
def Fails (w : Work) : Prop := ∀ r, (w r).1.status = r.status ∧ ∃ f, (w r).2 = .error f

theorem fails_after_suspend (seconds : Rat) {w : Work} (hw : Fails w) :
    Fails (Work.andThen (suspend seconds) w) := by
  intro r
  have hs := status_suspend seconds r
  cases e : suspend seconds r with
  | mk s out =>
    rw [e] at hs
    cases out with
    | error f =>
      rw [Work.andThen_of_error e]
      exact ⟨hs, f, rfl⟩
    | ok =>
      rw [Work.andThen_of_ok e]
      exact ⟨(hw s).1.trans hs, (hw s).2⟩

theorem fails_giveUp (f : Failure) : Fails (giveUp f) := by
  have fail : Fails (Work.fail f) := fun r => ⟨rfl, f, rfl⟩
  unfold giveUp
  split
  · exact fails_after_suspend 0 (fails_after_suspend 0 fail)
  · exact fail

theorem translated_error (r : Run) (f : Failure) : ∃ g, r.translated (.error f) = .error g := by
  unfold translated
  split
  · split
    · exact ⟨_, rfl⟩
    · exact ⟨_, rfl⟩
  · exact ⟨f, rfl⟩

/-- A request that has failed is answered as a breakdown, or by the guard. -/
theorem status_of_error {f : Failure}
    (ho : (Dispatch.dispatch routes (requestContext s c r) c.wall r).outcome = .error f) :
    (underDeadline s routes c r context).response.status = 500 ∨
      (underDeadline s routes c r context).response.status = 504 := by
  let budget := (Budgets.ofSettings s).choose r.path
  obtain ⟨hstatus, g, hfails⟩ := fails_giveUp f (begun c.reckoning budget c.time)
  cases hrun : giveUp f (begun c.reckoning budget c.time) with
  | mk run out =>
    rw [hrun] at hstatus hfails
    obtain rfl : out = .error g := hfails
    rw [underDeadline_of_run ho hrun]
    split
    · have hunstarted : run.left.status.truthy = false := congrArg Json.truthy hstatus
      obtain ⟨hok, hmessages⟩ := Guard.conclude_prompt budget hunstarted
      exact (status_ofResult_ok hok fun _ => status_received _ hmessages).symm
    · left
      obtain ⟨g', e⟩ := translated_error run g
      exact status_ofResult_error e

theorem translated_of_not_cancelled (r : Run) {f : Failure} (hf : f.isCancelled = false) :
    r.translated (.error f) = .error f := by
  cases f <;> first | rfl | cases hf

/-- A request that has failed, and not because it was cancelled, breaks down at once. -/
theorem afterReaction_of_failure {reaction : Traced Reaction} {f : Failure}
    (hf : f.isCancelled = false) (ho : reaction.outcome = .error f) :
    afterReaction s c r context reaction =
      ⟨.crash, some f, (reaction.bound context).events, [],
        (reaction.bound context).explanations, c.time⟩ := by
  let budget := (Budgets.ofSettings s).choose r.path
  have hrun : perform s (requestContext s c r).deadline reaction.outcome
      (begun c.reckoning budget c.time) = (begun c.reckoning budget c.time, .error f) := by
    rw [ho]
    show giveUp f (begun c.reckoning budget c.time) = _
    unfold giveUp
    rw [if_neg (by simp [hf])]
    rfl
  have hpunctual : Guard.isOverdue (begun c.reckoning budget c.time) (.error f) = false := rfl
  rw [afterReaction_of_run hrun, hpunctual, translated_of_not_cancelled _ hf]
  simp only [ofResult, escaped, hf, Bool.false_eq_true, if_false]
  rfl

/-- What the caller receives of a failure that is rendered. -/
def reply (c : Circumstances) (r : Request) : Except Failure Response → Response
  | .ok answer => withId c r answer
  | .error _ => .crash

/-- A request is answered with what a failure is rendered to, and breaks down if that fails. -/
theorem response_of_rendering (ht : ((Budgets.ofSettings s).choose r.path).isOver c.time = false)
    {reaction : Traced Reaction} {site : Option Tenant} {rendering : Except Failure Response}
    (ho : reaction.outcome = rendering.map fun answer => ⟨site, .answer answer⟩)
    (hlength : ∀ answer, rendering = .ok answer → lengthless answer = answer)
    (hbroken : ∀ f, rendering = .error f → f.isCancelled = false) :
    (afterReaction s c r context reaction).response = reply c r rendering := by
  cases rendering with
  | ok answer =>
    rw [(response_afterReaction ht ho).1, hlength answer rfl]
    rfl
  | error f =>
    rw [afterReaction_of_failure (hbroken f rfl) ho]
    rfl

theorem underDeadline_of_failure {f : Failure} (hf : f.isCancelled = false)
    (ho : (Dispatch.dispatch routes (requestContext s c r) c.wall r).outcome = .error f) :
    underDeadline s routes c r context =
      ⟨.crash, some f,
        ((Dispatch.dispatch routes (requestContext s c r) c.wall r).bound context).events, [],
        ((Dispatch.dispatch routes (requestContext s c r) c.wall r).bound context).explanations,
        c.time⟩ :=
  afterReaction_of_failure hf ho

/-! ### Without time left -/

/-- The run of work that was cut off by the deadline before it had sent anything. -/
structure CutOff (run : Run) : Prop where
  expired : run.expired = true
  requests : run.requests = 1
  status : run.status = .int 0
  sent : run.sent = []

theorem cutOff_suspend {run : Run} {t : Rat} (hi : run.interrupt = none)
    (ha : run.alarms = [⟨some t, 0, false⟩]) (hd : t ≤ run.now) (hrequests : run.requests = 0)
    (hstatus : run.status = .int 0) (hsent : run.sent = []) :
    ∃ cut, suspend 0 run = (cut, .error (.cancelled "")) ∧ CutOff cut := by
  obtain ⟨hout, hexpired, hcount⟩ := suspend_zero_overdue hi ha hd
  exact ⟨_, Prod.ext rfl hout, hexpired, hcount.trans (by rw [hrequests]),
    (status_suspend 0 run).trans hstatus, (sent_suspend 0 run).trans hsent⟩

/-- Without time left, work that waits is cut off in one of its first two turns. -/
theorem giveUp_of_isOver (h : budget.isOver time = true) :
    ∃ cut, giveUp (.cancelled "") (begun reckoning budget time) = (cut, .error (.cancelled "")) ∧
      CutOff cut := by
  obtain ⟨seconds, hs, hdue⟩ := (Option.any_eq_true _ _).1 h
  have hsoon : Moment.after time seconds ≤ time ∨ Moment.after time seconds < Moment.soon time := by
    simpa using hdue
  have halarms : (begun reckoning budget time).alarms =
      [⟨some (Moment.after time seconds), 0, false⟩] :=
    congrArg (fun limit => [Alarm.mk (Option.map (Moment.after time) limit) 0 false]) hs
  show ∃ cut, Work.andThen (suspend 0) (Work.andThen (suspend 0) (Work.fail _)) _ = (cut, _) ∧ _
  by_cases hnow : Moment.after time seconds ≤ time
  · obtain ⟨cut, hcut, hall⟩ :
        ∃ cut, suspend 0 (begun reckoning budget time) = (cut, _) ∧ CutOff cut :=
      cutOff_suspend rfl halarms hnow rfl rfl rfl
    exact ⟨cut, Work.andThen_of_error hcut, hall⟩
  · -- the deadline is close enough to be moved to the turn that has begun
    let begun := begun reckoning budget time
    let turned : Run := { begun with waking := begun.waking.next }.hastened
    have hturn : suspend 0 begun = (turned, .ok ()) :=
      suspend_zero_eq rfl halarms fun t ht => Option.some.inj ht ▸ hnow
    have hmoved : turned.alarms = [⟨some time, 0, false⟩] :=
      hastened_alarms_of_soon (r := { begun with waking := _ }) halarms (not_le.1 hnow)
        (hsoon.resolve_left hnow)
    obtain ⟨cut, hcut, hall⟩ : ∃ cut, suspend 0 turned = (cut, _) ∧ CutOff cut :=
      cutOff_suspend rfl hmoved le_rfl rfl rfl rfl
    rw [Work.andThen_of_ok hturn]
    exact ⟨cut, Work.andThen_of_error hcut, hall⟩

/-- The answer of the guard, as the caller receives it. -/
def timedOut : Response := .plain 504 Guard.timeoutText

/-- Without time left, a request that was cancelled is answered by the guard. -/
theorem response_of_cancelled (h : ((Budgets.ofSettings s).choose r.path).isOver c.time = true)
    (ho : (Dispatch.dispatch routes (requestContext s c r) c.wall r).outcome =
      .error (.cancelled "")) :
    (underDeadline s routes c r context).response = withId c r timedOut := by
  let budget := (Budgets.ofSettings s).choose r.path
  obtain ⟨cut, hcut, hall⟩ :
      ∃ cut, giveUp (.cancelled "") (begun c.reckoning budget c.time) = (cut, _) ∧ CutOff cut :=
    giveUp_of_isOver h
  have hoverdue : Guard.isOverdue cut (.error (.cancelled "")) = true := by
    have hleft : cut.left.requests = 0 := by
      show (if cut.expired then cut.requests - 1 else cut.requests) = 0
      rw [hall.expired, hall.requests]
      rfl
    have hexcused : cut.left.requests ≤ cut.excused := hleft ▸ Nat.zero_le _
    simp [Guard.isOverdue, translated, hall.expired, hexcused, Guard.isAnswerable,
      Failure.isTimeout]
  have hunstarted : cut.left.status.truthy = false := congrArg Json.truthy hall.status
  obtain ⟨hok, hmessages⟩ := Guard.conclude_prompt budget hunstarted
  have hsent : cut.left.sent = [] := hall.sent
  rw [hsent] at hmessages
  have hreceived : received (Guard.conclude .prompt budget cut.left).run.sent = timedOut := by
    rw [received_eq, hmessages]
    rfl
  have hstarted : hasStarted (Guard.conclude .prompt budget cut.left).run.sent = true := by
    rw [hasStarted_eq, hmessages]
    rfl
  rw [underDeadline_of_run ho hcut, if_pos hoverdue, (ofResult_of_started hok hstarted).1,
    hreceived]

/-! ### How long it takes -/

/-- The work takes no time, unless it is cancelled from outside. -/
def Instant (w : Work) : Prop :=
  ∀ r, r.interrupt = none → (w r).1.now = r.now ∧ (w r).1.interrupt = none

theorem instant_fail (f : Failure) : Instant (Work.fail f) := fun _ h => ⟨rfl, h⟩

theorem Instant.andThen {v w : Work} (hv : Instant v) (hw : Instant w) :
    Instant (Work.andThen v w) := by
  intro r hr
  obtain ⟨hnow, hi⟩ := hv r hr
  cases e : v r with
  | mk s out =>
    rw [e] at hnow hi
    cases out with
    | error f =>
      rw [Work.andThen_of_error e]
      exact ⟨hnow, hi⟩
    | ok =>
      rw [Work.andThen_of_ok e]
      exact ⟨(hw s hi).1.trans hnow, (hw s hi).2⟩

theorem instant_suspend : Instant (suspend 0) := by
  intro r hr
  rw [suspend_zero hr]
  exact ⟨Waking.time_next r.waking, by simp [resume, hastened, hr]⟩

theorem instant_note (m : Message) : Instant (note m) := by
  intro r hr
  rcases note_cases m r with e | ⟨f, e⟩
  · rw [e]
    exact ⟨rfl, hr⟩
  · rw [e]
    exact ⟨rfl, hr⟩

theorem instant_send (m : Message) : Instant (send caller m) := by
  intro r hr
  have hfinish (call : Nat) : Instant (finish caller call m) := fun _ hs => ⟨rfl, hs⟩
  exact (instant_suspend.andThen (hfinish _)) { r with handed := r.handed ++ [⟨r.now, m⟩] } hr

theorem instant_deliver (answer : Response) : Instant (deliver answer) :=
  ((instant_note _).andThen (instant_send _)).andThen ((instant_note _).andThen (instant_send _))

theorem instant_giveUp (f : Failure) : Instant (giveUp f) := by
  unfold giveUp
  split
  · exact instant_suspend.andThen (instant_suspend.andThen (instant_fail f))
  · exact instant_fail f

/-- The guard does not take any time of its own. -/
theorem now_guarded {work : Work} (hw : Instant work) {run : Run} (hr : run.interrupt = none) :
    (Guard.guarded .prompt budget work run).run.now = run.now := by
  obtain ⟨hnow, -⟩ := hw (run.enter budget.limit?) hr
  cases e : work (run.enter budget.limit?) with
  | mk s out =>
    rw [e] at hnow
    rw [Guard.guarded_of e]
    split
    · unfold Guard.conclude
      split
      · exact hnow
      · exact hnow
    · exact hnow

/-- The work that takes time which a request is left with, if it is. -/
def script? : Except Failure Reaction → Option Script
  | .ok ⟨_, .work script⟩ => some script
  | _ => none

theorem instant_perform {outcome : Except Failure Reaction} (h : script? outcome = none)
    (deadline : Binary64) : Instant (perform s deadline outcome) := by
  cases outcome with
  | error f => exact instant_giveUp f
  | ok reaction =>
    obtain ⟨site, act⟩ := reaction
    cases act with
    | answer answer => exact instant_deliver answer
    | work script => cases h

end Exchange

end Gatehouse
