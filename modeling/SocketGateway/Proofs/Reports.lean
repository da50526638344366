import Mathlib.Data.List.Induction
import SocketGateway.Loopback.Probing
import SocketGateway.Proofs.Frames

/-!
# What a probe reports

A probe reports what it heard: the id of the last greeting, the other messages in order, and whether
the gateway ended the visit or its own time was over. It answers every greeting with its event, if it
has one, and nothing else with anything.
-/

namespace SocketGateway.Probe

open SocketGateway.Http (AnswerHead UpgradeError)
open SocketGateway.Wire (Frame Receiver)

/-! ## What is heard -/

namespace Item

def message? : Item → Option ServerMessage
  | .inbound (.text s) => (ServerMessage.decode s).toOption
  | _ => none

def greeting? (i : Item) : Option String :=
  match i.message? with
  | some (.connected sid _ _ _) => some sid
  | _ => none

def news? (i : Item) : Option ServerMessage :=
  match i.message? with
  | some (.connected ..) => none
  | m => m

/-- Whether the gateway, or the stream, has ended the visit. -/
def isEnd : Item → Bool
  | .inbound (.close _) | .readFailed _ | .streamEnded => true
  | _ => false

def leavesOpen : Item → Bool
  | .lingerOver | .writeFailed _ => false
  | i => !i.isEnd

/-- Whether it is a frame that says nothing to a probe. -/
def isIdle : Item → Bool
  | .inbound f => !f.isClose && (message? (.inbound f)).isNone
  | _ => false

variable {i : Item}

theorem message?_of_isEnd (h : i.isEnd = true) : i.message? = none := by
  cases i with
  | inbound f =>
      cases f with
      | text s => cases h
      | _ => rfl
  | _ => rfl

theorem isEnd_of_leavesOpen (h : i.leavesOpen = true) : i.isEnd = false := by
  cases i with
  | inbound f => simpa [leavesOpen] using h
  | readFailed w | streamEnded => cases h
  | _ => rfl

end Item

namespace Report

/-- The report of a visit with a status in which things were heard. -/
def of (status : Nat) (items : List Item) : Report :=
  ⟨status, (items.filterMap Item.greeting?).getLast?, items.filterMap Item.news?,
    items.any Item.isEnd⟩

def after (r : Report) (i : Item) : Report :=
  { r with
    sid := i.greeting?.or r.sid
    messages := r.messages ++ i.news?.toList
    closedByServer := r.closedByServer || i.isEnd }

variable {r : Report} {i : Item} {items : List Item} {status : Nat}

theorem of_snoc : of status (items ++ [i]) = (of status items).after i := by
  cases hgreeting : i.greeting? <;> cases hnews : i.news? <;>
    simp [of, after, List.filterMap_append, hgreeting, hnews]

theorem after_eq_self (hmessage : i.message? = none) (hend : i.isEnd = false) : r.after i = r := by
  simp [after, Item.greeting?, Item.news?, hmessage, hend]

theorem after_of_isEnd (h : i.isEnd = true) : r.after i = { r with closedByServer := true } := by
  simp [after, Item.greeting?, Item.news?, Item.message?_of_isEnd h, h]

theorem closedByServer_of (h : items.all Item.leavesOpen) :
    (of status items).closedByServer = false := by
  refine List.any_eq_false.mpr fun i hi => ?_
  simp [Item.isEnd_of_leavesOpen (List.all_eq_true.mp h i hi)]

end Report

namespace Visit

def begun (status : Nat) (log : List Log.Record) : Visit := ⟨⟨status, none, [], false⟩, .listening, log⟩

/-- Whether a visit waits for something: for what is read and the end of its time while it listens,
and for the end of writing while it writes. -/
def awaits (v : Visit) : Item → Bool
  | .wrote | .writeFailed _ => v.pending?.isSome
  | _ => v.doing = .listening

/-- What is written when something happens. -/
def writes (v : Visit) : Item → List Frame
  | .wrote => v.pending?.toList
  | _ => []

/-- **A visit goes through things** that it waits for, one after the other, and writes frames. -/
inductive Goes (o : Options) (v : Visit) : List Item → List Frame → Visit → Prop
  | nil : Goes o v [] [] v
  | snoc {items : List Item} {frames : List Frame} {v' : Visit} {i : Item}
      (h : Goes o v items frames v') (hi : v'.awaits i = true) :
      Goes o v (items ++ [i]) (frames ++ v'.writes i) (v'.step o i)

def goThrough (o : Options) (v : Visit) (items : List Item) : Option (List Frame × Visit) :=
  items.foldlM (fun (frames, v) i =>
    if v.awaits i = true then some (frames ++ v.writes i, v.step o i) else none) ([], v)

/-- The events with which greetings are answered: one for each, if there is one to send. -/
def replies (o : Options) (items : List Item) : List Frame :=
  match o.emit with
  | some event => List.replicate (items.filterMap Item.greeting?).length (eventFrame event)
  | none => []

/-- Where a visit stands after what it heard and wrote. -/
def Stands (o : Options) (items : List Item) (frames : List Frame) : Doing → Prop
  | .listening => items.all Item.leavesOpen ∧ frames = replies o items
  | .emitting event => items.all Item.leavesOpen ∧ o.emit = some event ∧
      frames ++ [eventFrame event] = replies o items
  | .leaving => ∃ before, before.all Item.leavesOpen ∧ items = before ++ [.lingerOver] ∧
      frames = replies o items
  | .done none => ∃ before, before.all Item.leavesOpen ∧
      ((∃ i, i.isEnd = true ∧ items = before ++ [i] ∧ frames = replies o items) ∨
        (items = before ++ [.lingerOver, .wrote] ∧ frames = replies o items ++ [.close none]) ∨
        ∃ e, items = before ++ [.lingerOver, .writeFailed e] ∧ frames = replies o items)
  | .done (some e) => ∃ before event, before.all Item.leavesOpen ∧
      items = before ++ [.writeFailed e] ∧ o.emit = some event ∧
      frames ++ [eventFrame event] = replies o items

section

variable {o : Options} {v v' : Visit} {i : Item} {items : List Item} {frames : List Frame}
  {status : Nat} {log : List Log.Record} {sid : String}

/-! ## One thing that happens -/

theorem greeting?_of_isEnd (h : i.isEnd = true) : i.greeting? = none := by
  simp [Item.greeting?, Item.message?_of_isEnd h]

theorem replies_snoc_none (h : i.greeting? = none) : replies o (items ++ [i]) = replies o items := by
  simp [replies, List.filterMap_append, h]

theorem replies_snoc_some (h : i.greeting? = some sid) :
    replies o (items ++ [i]) = replies o items ++ (o.emit.map eventFrame).toList := by
  cases hemit : o.emit with
  | none => simp [replies, hemit]
  | some event => simp [replies, hemit, h, List.replicate_succ']

/-- The end of the time to stay is no greeting, nor is what follows it. -/
theorem replies_over (h : i.greeting? = none) :
    replies o (items ++ [.lingerOver, i]) = replies o items := by
  rw [List.append_cons, replies_snoc_none h, replies_snoc_none rfl]

/-- A text is taken down, or leaves no trace but a warning. -/
theorem step_text (h : v.doing = .listening) (s : String) :
    ((v.step o (.inbound (.text s))).report = v.report.after (.inbound (.text s))) ∧
      (v.step o (.inbound (.text s))).doing =
        match (Item.inbound (.text s)).greeting?, o.emit with
        | some _, some event => .emitting event
        | _, _ => .listening := by
  simp only [step, h, Report.after, Item.greeting?, Item.news?, Item.message?]
  cases ServerMessage.decode s with
  | error e => simp [Except.toOption, record, h, Item.isEnd]
  | ok m =>
      cases m with
      | connected sid ns interval timeout =>
          cases hemit : o.emit <;> simp [Except.toOption, take, record, Item.isEnd, hemit]
      | event name args => simp [Except.toOption, take, record, h, Item.isEnd]
      | error message => simp [Except.toOption, take, record, h, Item.isEnd]

/-- **What a report gains** from one thing: an id, a message, or that the visit was ended. -/
theorem report_step (h : v.awaits i = true) : (v.step o i).report = v.report.after i := by
  cases i with
  | inbound f =>
      have hlistening : v.doing = .listening := of_decide_eq_true h
      cases f with
      | text s => exact (step_text hlistening s).1
      | close notice =>
          rw [Report.after_of_isEnd rfl]
          simp [step, hlistening, closed, record]
      | binary bytes | ping bytes | pong bytes | raw head bytes =>
          rw [Report.after_eq_self rfl rfl]
          simp [step, hlistening]
  | readFailed w | streamEnded =>
      have hlistening : v.doing = .listening := of_decide_eq_true h
      rw [Report.after_of_isEnd rfl]
      simp [step, hlistening, closed, record]
  | lingerOver =>
      have hlistening : v.doing = .listening := of_decide_eq_true h
      rw [Report.after_eq_self rfl rfl]
      simp [step, hlistening, record]
  | wrote | writeFailed e =>
      rw [Report.after_eq_self rfl rfl, step.eq_def]
      cases hdoing : v.doing <;> simp [record]

/-- What a probe does after one thing while it listens. -/
theorem doing_step_listening (h : v.doing = .listening) (hi : v.awaits i = true) :
    (v.step o i).doing =
      if i.isEnd = true then .done none
      else if i = .lingerOver then .leaving
      else match i.greeting?, o.emit with
        | some _, some event => .emitting event
        | _, _ => .listening := by
  cases i with
  | inbound f =>
      cases f with
      | text s =>
          rw [(step_text h s).2]
          rfl
      | close notice => simp [step, h, closed, Item.isEnd]
      | binary bytes | ping bytes | pong bytes | raw head bytes =>
          simp only [step, h]
          rfl
  | readFailed w | streamEnded => simp [step, h, closed, Item.isEnd]
  | lingerOver => simp [step, h, Item.isEnd]
  | wrote | writeFailed e => simp [awaits, pending?, h] at hi

theorem leavesOpen_snoc (hbefore : items.all Item.leavesOpen) (hi : i.leavesOpen = true) :
    (items ++ [i]).all Item.leavesOpen := by
  simp [hbefore, hi]

theorem Stands.step_listening (h : Stands o items frames .listening) (hdoing : v.doing = .listening)
    (hi : v.awaits i = true) :
    Stands o (items ++ [i]) (frames ++ v.writes i) (v.step o i).doing := by
  obtain ⟨hopen, hframes⟩ := h
  have hwrites : v.writes i = [] := by
    cases i <;> simp [writes, pending?, hdoing]
  rw [doing_step_listening hdoing hi, hwrites, List.append_nil, hframes]
  by_cases hend : i.isEnd = true
  · rw [if_pos hend]
    exact ⟨items, hopen, .inl ⟨i, hend, rfl, (replies_snoc_none (greeting?_of_isEnd hend)).symm⟩⟩
  rw [if_neg hend]
  by_cases hlinger : i = .lingerOver
  · subst hlinger
    rw [if_pos rfl]
    exact ⟨items, hopen, rfl, (replies_snoc_none rfl).symm⟩
  rw [if_neg hlinger]
  have hopen' : (items ++ [i]).all Item.leavesOpen := by
    refine leavesOpen_snoc hopen ?_
    cases i with
    | writeFailed e => simp [awaits, pending?, hdoing] at hi
    | lingerOver => exact absurd rfl hlinger
    | _ => simpa [Item.leavesOpen] using hend
  cases hgreeting : i.greeting? with
  | none => exact ⟨hopen', (replies_snoc_none hgreeting).symm⟩
  | some sid =>
      cases hemit : o.emit with
      | none =>
          refine ⟨hopen', ?_⟩
          rw [replies_snoc_some hgreeting, hemit]
          exact (List.append_nil _).symm
      | some event =>
          refine ⟨hopen', hemit, ?_⟩
          rw [replies_snoc_some hgreeting, hemit]
          rfl

/-- **Where a visit stands** follows from where it stood. -/
theorem Stands.step (h : Stands o items frames v.doing) (hi : v.awaits i = true) :
    Stands o (items ++ [i]) (frames ++ v.writes i) (v.step o i).doing := by
  cases hdoing : v.doing with
  | listening => exact (hdoing ▸ h).step_listening hdoing hi
  | emitting event =>
      rw [hdoing] at h
      obtain ⟨hopen, hemit, hframes⟩ := h
      cases i with
      | wrote =>
          simp only [Visit.step, hdoing, writes, pending?]
          exact ⟨leavesOpen_snoc hopen rfl, hframes.trans (replies_snoc_none rfl).symm⟩
      | writeFailed e =>
          simp only [Visit.step, hdoing, writes, List.append_nil]
          exact ⟨items, event, hopen, rfl, hemit, hframes.trans (replies_snoc_none rfl).symm⟩
      | _ => simp [awaits, hdoing] at hi
  | leaving =>
      rw [hdoing] at h
      obtain ⟨before, hopen, rfl, hframes⟩ := h
      cases i with
      | wrote =>
          simp only [Visit.step, hdoing, writes, pending?]
          refine ⟨before, hopen, .inr (.inl ⟨by simp, ?_⟩)⟩
          rw [hframes, replies_snoc_none (i := .wrote) rfl]
          rfl
      | writeFailed e =>
          simp only [Visit.step, hdoing, writes, List.append_nil]
          refine ⟨before, hopen, .inr (.inr ⟨e, by simp, ?_⟩)⟩
          exact hframes.trans (replies_snoc_none rfl).symm
      | _ => simp [awaits, hdoing] at hi
  | done error => cases i <;> simp [awaits, pending?, hdoing] at hi

/-! ## Whole visits -/

namespace Goes

theorem goThrough_snoc : goThrough o v (items ++ [i]) = (goThrough o v items).bind fun (frames, v') =>
    if v'.awaits i = true then some (frames ++ v'.writes i, v'.step o i) else none := by
  simp [goThrough, List.foldlM_append]

/-- Whether a visit goes through things can be found out. -/
theorem iff_goThrough : Goes o v items frames v' ↔ goThrough o v items = some (frames, v') := by
  constructor
  · intro h
    induction h with
    | nil => rfl
    | snoc _ hi ih => simp only [goThrough_snoc, ih, Option.bind_some, hi, if_true]
  · intro h
    induction items using List.reverseRecOn generalizing frames v' with
    | nil =>
        cases h
        exact .nil
    | append_singleton items i ih =>
        rw [goThrough_snoc] at h
        obtain ⟨⟨frames', w⟩, hbefore, hlast⟩ := Option.bind_eq_some_iff.mp h
        obtain ⟨hi, heq⟩ := Option.ite_none_right_eq_some.mp hlast
        cases heq
        exact (ih hbefore).snoc hi

/-- **Where a visit stands** at any time. -/
theorem stands (h : Goes o (begun status log) items frames v) : Stands o items frames v.doing := by
  induction h with
  | nil =>
      refine ⟨rfl, ?_⟩
      cases hemit : o.emit <;> simp [replies, hemit]
  | snoc _ hi ih => exact ih.step hi

/-- **What a visit has taken down** at any time. -/
theorem report (h : Goes o (begun status log) items frames v) : v.report = .of status items := by
  induction h with
  | nil => rfl
  | snoc _ hi ih => rw [report_step hi, ih, Report.of_snoc]

theorem of_snoc (h : Goes o v (items ++ [i]) frames v') : ∃ frames' w,
    Goes o v items frames' w ∧ w.awaits i = true ∧ frames = frames' ++ w.writes i ∧
      v' = w.step o i := by
  generalize hall : items ++ [i] = all at h
  cases h with
  | nil => simp at hall
  | @snoc items' frames' w i' h hi =>
      obtain ⟨rfl, hlast⟩ := List.append_inj' hall rfl
      cases hlast
      exact ⟨frames', w, h, hi, rfl, rfl⟩

/-- What a probe reports, and what it wrote, when it reports. -/
theorem of_ok {r : Report} (h : Goes o (begun status log) items frames v)
    (hr : v.result? = some (.ok r)) :
    ∃ heard, heard.all Item.leavesOpen ∧ r.status = status ∧
      r.messages = heard.filterMap Item.news? ∧
      r.sid = (heard.filterMap Item.greeting?).getLast? ∧
      ((r.closedByServer = true ∧ frames = replies o heard ∧
          ∃ i, i.isEnd = true ∧ items = heard ++ [i]) ∨
        (r.closedByServer = false ∧ ∃ i, items = heard ++ [.lingerOver, i] ∧
          frames = replies o heard ++ if i = .wrote then [.close none] else [])) := by
  have hdoing : v.doing = .done none ∧ v.report = r := by
    cases hv : v.doing with
    | done error => cases error <;> simp_all [result?]
    | _ => simp [result?, hv] at hr
  obtain ⟨hdone, rfl⟩ := hdoing
  have hstands := h.stands
  rw [hdone] at hstands
  obtain ⟨heard, hopen, hrest⟩ := hstands
  have hclosed : (Report.of status heard).closedByServer = false := Report.closedByServer_of hopen
  -- the end of the time to stay leaves the report as it was
  have hleft : ∀ i, i.message? = none → i.isEnd = false → items = heard ++ [.lingerOver, i] →
      v.report = .of status heard := by
    intro i hmessage hend hitems
    rw [h.report, hitems, List.append_cons, Report.of_snoc, Report.after_eq_self hmessage hend,
      Report.of_snoc, Report.after_eq_self rfl rfl]
  refine ⟨heard, hopen, ?_⟩
  rcases hrest with ⟨i, hend, hitems, hframes⟩ | ⟨hitems, hframes⟩ | ⟨e, hitems, hframes⟩
  · rw [h.report, hitems, Report.of_snoc, Report.after_of_isEnd hend]
    refine ⟨rfl, rfl, rfl, .inl ⟨rfl, ?_, i, hend, rfl⟩⟩
    rw [hframes, hitems, replies_snoc_none (greeting?_of_isEnd hend)]
  · rw [hleft _ rfl rfl hitems]
    refine ⟨rfl, rfl, rfl, .inr ⟨hclosed, _, hitems, ?_⟩⟩
    rw [hframes, hitems, replies_over rfl]
    rfl
  · rw [hleft _ rfl rfl hitems]
    refine ⟨rfl, rfl, rfl, .inr ⟨hclosed, _, hitems, ?_⟩⟩
    rw [hframes, hitems, replies_over rfl]
    exact (List.append_nil _).symm

/-- A probe gives an error back exactly if its event could not be written. -/
theorem error_iff {e : GatewayError} (h : Goes o (begun status log) items frames v) :
    v.result? = some (.error e) ↔ ∃ heard event w, heard.all Item.leavesOpen ∧
      items = heard ++ [.writeFailed w] ∧ o.emit = some event ∧ e = .websocket w ∧
      frames ++ [eventFrame event] = replies o heard := by
  have hstands := h.stands
  constructor
  · intro he
    cases hdoing : v.doing with
    | done error =>
        cases error with
        | none => simp [result?, hdoing] at he
        | some w =>
            rw [hdoing] at hstands
            obtain ⟨heard, event, hopen, hitems, hemit, hframes⟩ := hstands
            rw [hitems, replies_snoc_none rfl] at hframes
            refine ⟨heard, event, w, hopen, hitems, hemit, ?_, hframes⟩
            simpa [result?, hdoing] using he.symm
    | _ => simp [result?, hdoing] at he
  · rintro ⟨heard, event, w, hopen, rfl, -, rfl, -⟩
    obtain ⟨frames', v', hbefore, hi, -, rfl⟩ := h.of_snoc
    have hstood := hbefore.stands
    cases hdoing : v'.doing with
    | emitting event => simp [step, hdoing, result?]
    | leaving =>
        -- the end of its time has not come before
        rw [hdoing] at hstood
        obtain ⟨before, -, rfl, -⟩ := hstood
        simp [Item.leavesOpen] at hopen
    | _ => simp [awaits, pending?, hdoing] at hi

end Goes

/-! ## What leaves no trace -/

/-- What is logged matters to nothing. -/
theorem step_congr (hreport : v.report = v'.report) (hdoing : v.doing = v'.doing) :
    (v.step o i).report = (v'.step o i).report ∧ (v.step o i).doing = (v'.step o i).doing := by
  obtain ⟨r, doing, log⟩ := v
  obtain ⟨r', doing', log'⟩ := v'
  cases hreport
  cases hdoing
  cases doing <;> cases i <;> try exact ⟨rfl, rfl⟩
  rename_i f
  cases f with
  | text s =>
      simp only [step]
      cases ServerMessage.decode s with
      | error e => exact ⟨rfl, rfl⟩
      | ok m => cases m <;> exact ⟨rfl, rfl⟩
  | _ => exact ⟨rfl, rfl⟩

/-- **What leaves no trace**: a text that is no message, and a frame that is neither a text nor a close
frame. -/
theorem step_idle (h : v.doing = .listening) (hi : i.isIdle = true) :
    (v.step o i).report = v.report ∧ (v.step o i).doing = v.doing ∧ v.writes i = [] := by
  cases i with
  | inbound f =>
      obtain ⟨hclose, hmessage⟩ := Bool.and_eq_true_iff.mp hi
      have hend : (Item.inbound f).isEnd = false := by
        cases f <;> simp_all [Item.isEnd, Frame.isClose]
      have hnone : (Item.inbound f).message? = none := Option.isNone_iff_eq_none.mp hmessage
      have hawaits : v.awaits (.inbound f) = true := decide_eq_true h
      refine ⟨?_, ?_, rfl⟩
      · rw [report_step hawaits, Report.after_eq_self hnone hend]
      · rw [doing_step_listening h hawaits, hend, Item.greeting?, hnone, h]
        rfl
  | _ => cases hi

/-- A visit without what leaves no trace goes the same way. -/
theorem Goes.filter (h : Goes o v items frames v') :
    ∃ v'', Goes o v (items.filter fun i => !i.isIdle) frames v'' ∧ v''.report = v'.report ∧
      v''.doing = v'.doing := by
  induction h with
  | nil => exact ⟨v, .nil, rfl, rfl⟩
  | @snoc items frames w i _ hi ih =>
      obtain ⟨w', hgoes, hreport, hdoing⟩ := ih
      by_cases hidle : i.isIdle = true
      · have hlistening : w.doing = .listening := by
          cases i with
          | inbound f => exact of_decide_eq_true hi
          | _ => cases hidle
        obtain ⟨hreport', hdoing', hwrites⟩ := step_idle (o := o) hlistening hidle
        refine ⟨w', ?_, hreport.trans hreport'.symm, hdoing.trans hdoing'.symm⟩
        simpa [hidle, hwrites] using hgoes
      · have hpending : w'.pending? = w.pending? := by rw [pending?, pending?, hdoing]
        have hi' : w'.awaits i = true := by
          cases i <;> simpa [awaits, hpending, hdoing] using hi
        have hwrites : w'.writes i = w.writes i := by
          cases i <;> simp [writes, hpending]
        have hnext := hgoes.snoc hi'
        rw [hwrites] at hnext
        refine ⟨w'.step o i, ?_, step_congr hreport hdoing⟩
        simpa [hidle] using hnext

/-! ## Any visit -/

theorem Goes.hear {f : Frame} (h : Goes o v items frames v') (hlistening : v'.doing = .listening)
    (hf : f.isClose = false) : ∃ items' frames' w, Goes o v items' frames' w ∧ w.doing = .listening ∧
      items'.filter (· ≠ .wrote) = items.filter (· ≠ .wrote) ++ [.inbound f] := by
  have hi : v'.awaits (.inbound f) = true := decide_eq_true hlistening
  have hend : (Item.inbound f).isEnd = false := by
    cases f <;> simp_all [Item.isEnd, Frame.isClose]
  have hheard := h.snoc hi
  have hdoing := doing_step_listening (o := o) hlistening hi
  rw [hend] at hdoing
  cases hgreeting : (Item.inbound f).greeting? with
  | none =>
      rw [hgreeting] at hdoing
      exact ⟨_, _, _, hheard, hdoing, by simp⟩
  | some sid =>
      cases hemit : o.emit with
      | none =>
          rw [hgreeting, hemit] at hdoing
          exact ⟨_, _, _, hheard, hdoing, by simp⟩
      | some event =>
          -- the event is written before anything else is read
          rw [hgreeting, hemit] at hdoing
          have hemitting : (v'.step o (.inbound f)).doing = .emitting event := hdoing
          have hwrote : (v'.step o (.inbound f)).awaits .wrote = true := by
            simp [awaits, pending?, hemitting]
          refine ⟨_, _, _, hheard.snoc hwrote, ?_, by simp⟩
          simp [step.eq_def _ _ Item.wrote, hemitting]

theorem Goes.hearAll (o : Options) (v : Visit) (hlistening : v.doing = .listening) {fs : List Frame}
    (hfs : ∀ f ∈ fs, f.isClose = false) : ∃ items frames w, Goes o v items frames w ∧
      w.doing = .listening ∧ items.filter (· ≠ .wrote) = fs.map Item.inbound := by
  induction fs using List.reverseRecOn with
  | nil => exact ⟨[], [], v, .nil, hlistening, rfl⟩
  | append_singleton fs f ih =>
      obtain ⟨items, frames, w, hgoes, hdoing, hitems⟩ :=
        ih fun f hf => hfs f (List.mem_append_left _ hf)
      obtain ⟨items', frames', w', hgoes', hdoing', hitems'⟩ :=
        hgoes.hear hdoing (hfs f (by simp))
      exact ⟨items', frames', w', hgoes', hdoing', by rw [hitems', hitems, List.map_append]; rfl⟩

/-- Whatever a gateway sends, and whenever the time is over, there is a visit that hears it all, and
that gives a report if nothing fails to be written. -/
theorem exists_goes (o : Options) (v : Visit) (hlistening : v.doing = .listening) {fs : List Frame}
    {last : Item} (hfs : ∀ f ∈ fs, f.isClose = false)
    (hlast : last.isEnd = true ∨ last = .lingerOver) :
    ∃ items frames w r, Goes o v items frames w ∧
      items.filter (· ≠ .wrote) = fs.map Item.inbound ++ [last] ∧ w.result? = some (.ok r) := by
  obtain ⟨items, frames, w, hgoes, hdoing, hitems⟩ := Goes.hearAll o v hlistening hfs
  rcases hlast with hend | rfl
  · have hi : w.awaits last = true := by
      cases last <;> simp_all [awaits, Item.isEnd]
    have hdone := doing_step_listening (o := o) hdoing hi
    rw [if_pos hend] at hdone
    have hwrote : last ≠ .wrote := by
      rintro rfl
      cases hend
    refine ⟨_, _, _, _, hgoes.snoc hi, ?_, by rw [result?, hdone]⟩
    rw [List.filter_append, hitems]
    simp [hwrote]
  · have hi : w.awaits .lingerOver = true := decide_eq_true hdoing
    have hleaving : (w.step o .lingerOver).doing = .leaving := by
      simp [step, hdoing]
    have hi' : (w.step o .lingerOver).awaits .wrote = true := by
      simp [awaits, pending?, hleaving]
    have hdone : ((w.step o .lingerOver).step o .wrote).doing = .done none := by
      simp [step.eq_def _ _ Item.wrote, hleaving]
    refine ⟨_, _, _, _, (hgoes.snoc hi).snoc hi', ?_, by rw [result?, hdone]⟩
    rw [List.filter_append, List.filter_append, hitems]
    simp

end

end Visit

/-! ## A probe on a stream -/

namespace Client

open Visit (Goes begun)

def isOwn : Frame → Bool
  | .pong _ => false
  | _ => true

/-- What can become of a probe, with the bytes of it that were taken. -/
inductive Reached (o : Options) (p : Plan) : List UInt8 → Client → Prop
  | start : Reached o p [] (.start o p)
  | receive {taken : List UInt8} {c : Client} (h : Reached o p taken c) (bytes : List UInt8)
      (ended : Bool) : Reached o p taken (c.receive bytes ended)
  | lingerOver {taken : List UInt8} {c : Client} (h : Reached o p taken c) :
      Reached o p taken c.lingerOver
  | taken {taken : List UInt8} {c : Client} (h : Reached o p taken c) :
      Reached o p (taken ++ c.output) { c with output := [] }

/-- A probe that visits: it has sent its request, what the visit wrote, and answers to pings. -/
structure Visits (o : Options) (p : Plan) (taken : List UInt8) (c : Client) (r : Receiver) (v : Visit) :
    Prop where
  options : c.options = o
  progress : c.progress = .visiting r v
  course : ∃ (status : Nat) (log : List Log.Record) (items : List Item) (frames sent : List Frame),
    Goes o (begun status log) items frames v ∧ (∀ e, .writeFailed e ∉ items) ∧
    sent.filter isOwn = frames ∧ taken ++ c.output = p.request ++ sent.flatMap (·.encode (some mask))

inductive Refuses (buffer : List UInt8) : UpgradeError → Prop
  | unfinished (h : AnswerHead.read buffer = .unfinished) : Refuses buffer .unfinished
  | fault {e : UpgradeError} (h : AnswerHead.read buffer = .fault e) : Refuses buffer e
  | check {head : AnswerHead} {rest : List UInt8} {e : UpgradeError}
      (h : AnswerHead.read buffer = .found head rest) (herror : head.check Plan.key = .error e) :
      Refuses buffer e

/-- **How far a probe is**: it has sent nothing but its request and waits for the answer, or failed
because of it; or it visits. -/
inductive Tells (o : Options) (p : Plan) (taken : List UInt8) (c : Client) : Prop
  | upgrading {buffer : List UInt8} (options : c.options = o) (sent : taken ++ c.output = p.request)
      (progress : c.progress = .upgrading buffer)
  | failed {buffer : List UInt8} {e : UpgradeError} (options : c.options = o)
      (sent : taken ++ c.output = p.request) (progress : c.progress = .failed (.websocket e))
      (refuses : Refuses buffer e)
  | visiting {r : Receiver} {v : Visit} (visits : Visits o p taken c r v)

section

variable {o : Options} {p : Plan} {taken bytes : List UInt8} {c : Client} {r : Receiver} {v : Visit}
  {i : Item} {ended : Bool}

theorem isOwn_of_pending? {f : Frame} (h : v.pending? = some f) : isOwn f = true := by
  cases hdoing : v.doing with
  | emitting event =>
      cases (by simpa [Visit.pending?, hdoing] using h : Visit.eventFrame event = f)
      rfl
  | leaving =>
      cases (by simpa [Visit.pending?, hdoing] using h : Frame.close none = f)
      rfl
  | _ => simp [Visit.pending?, hdoing] at h

namespace Visits

theorem step (h : Visits o p taken c r v) (hi : v.awaits i = true) (hquiet : v.writes i = [])
    (hfine : ∀ e, i ≠ .writeFailed e) (r' : Receiver) :
    Visits o p taken (c.withVisit r' (v.step c.options i)) r' (v.step c.options i) := by
  obtain ⟨rfl, -, status, log, items, frames, sent, hgoes, hwrote, hown, hsent⟩ := h
  have hnext := hgoes.snoc hi
  rw [hquiet, List.append_nil] at hnext
  refine ⟨rfl, rfl, status, log, _, frames, sent, hnext, fun e he => ?_, hown, hsent⟩
  rcases List.mem_append.mp he with hold | hnew
  · exact hwrote e hold
  · exact hfine e (List.mem_singleton.mp hnew).symm

theorem withReceiver (h : Visits o p taken c r v) (r' : Receiver) :
    Visits o p taken (c.withVisit r' v) r' v :=
  ⟨h.options, rfl, h.course⟩

theorem linger (h : Visits o p taken c r v) :
    Visits o p taken (c.withVisit r (v.step c.options .lingerOver)) r
      (v.step c.options .lingerOver) := by
  cases hdoing : v.doing with
  | listening =>
      have hi : v.awaits .lingerOver = true := decide_eq_true hdoing
      exact h.step hi rfl nofun r
  | _ =>
      -- nobody heeds the time any more
      have hsame : v.step c.options .lingerOver = v := by simp [Visit.step, hdoing]
      rw [hsame]
      exact h.withReceiver r

theorem pong (h : Visits o p taken c r v) (bytes : List UInt8) :
    Visits o p taken (c.send (.pong bytes)) r v := by
  obtain ⟨hoptions, hprogress, status, log, items, frames, sent, hgoes, hwrote, hown, hsent⟩ := h
  refine ⟨hoptions, hprogress, status, log, items, frames, sent ++ [.pong bytes], hgoes, hwrote, ?_,
    ?_⟩
  · simpa [isOwn] using hown
  · simp [send, ← List.append_assoc, hsent]

/-- Before a ping is taken in, it is answered. -/
theorem answering (h : Visits o p taken c r v) (f : Frame) :
    Visits o p taken (match f with | .ping bytes => c.send (.pong bytes) | _ => c) r v := by
  cases f with
  | ping bytes => exact h.pong bytes
  | _ => exact h

/-- Writing succeeds on a stream in memory. -/
theorem flush (h : Visits o p taken c r v) : ∃ v', Visits o p taken c.flush r v' := by
  rw [Client.flush, h.progress]
  cases hpending : v.pending? with
  | none =>
      simp only [hpending]
      exact ⟨v, h⟩
  | some f =>
      simp only [hpending]
      have hi : v.awaits .wrote = true := by simp [Visit.awaits, hpending]
      have hf : isOwn f = true := isOwn_of_pending? hpending
      obtain ⟨rfl, -, status, log, items, frames, sent, hgoes, hwrote, hown, hsent⟩ := h
      refine ⟨_, rfl, rfl, status, log, _, _, sent ++ [f], hgoes.snoc hi, ?_, ?_, ?_⟩
      · simpa using hwrote
      · simp [hown, hf, Visit.writes, hpending]
      · simp [send, withVisit, ← List.append_assoc, hsent]

theorem read (h : Visits o p taken c r v) (fuel : Nat) (ended : Bool) :
    ∃ r' v', Visits o p taken (c.read fuel ended) r' v' := by
  induction fuel generalizing c r v with
  | zero => exact ⟨r, v, h⟩
  | succ fuel ih =>
      rw [Client.read, h.progress]
      cases hdoing : v.doing with
      | listening =>
          have hinbound : ∀ f, v.awaits (.inbound f) = true := fun f => decide_eq_true hdoing
          have hfailed : ∀ w, v.awaits (.readFailed w) = true := fun w => decide_eq_true hdoing
          simp only [hdoing]
          rcases r.next with ⟨arrival, r'⟩
          cases arrival with
          | message f =>
              obtain ⟨v', hflushed⟩ := ((h.answering f).step (hinbound f) rfl nofun r').flush
              exact ih hflushed
          | fault w => exact ⟨_, _, h.step (hfailed w) rfl nofun r'⟩
          | nothing =>
              cases ended
              · exact ⟨r, v, h⟩
              · exact ⟨_, _, h.step (hfailed _) rfl nofun r'⟩
      | _ =>
          simp only [hdoing]
          exact ⟨r, v, h⟩

end Visits

namespace Tells

/-- The answer to the request, as far as it is there. -/
theorem upgrade (hoptions : c.options = o) (hsent : taken ++ c.output = p.request)
    (buffer : List UInt8) (ended : Bool) : Tells o p taken (c.upgrade buffer ended) := by
  rw [Client.upgrade]
  cases hread : AnswerHead.read buffer with
  | unfinished =>
      cases ended
      · exact .upgrading hoptions hsent rfl
      · exact .failed hoptions hsent rfl (.unfinished hread)
  | fault e => exact .failed hoptions hsent rfl (.fault hread)
  | found head rest =>
      cases hcheck : head.check Plan.key with
      | error e =>
          simp only [hcheck]
          exact .failed hoptions hsent rfl (.check hread hcheck)
      | ok _ =>
          simp only [hcheck]
          exact .visiting ⟨hoptions, rfl, head.status, _, [], [], [], .nil, nofun, rfl,
            hsent.trans (List.append_nil _).symm⟩

/-- What is done with a visit is done to a probe that visits, and to no other. -/
theorem withVisit {f : Receiver → Visit → Client} (h : Tells o p taken c)
    (hf : ∀ r v, Visits o p taken c r v → Tells o p taken (f r v)) :
    Tells o p taken (match c.progress with
      | .visiting r v => f r v
      | _ => c) := by
  cases h with
  | upgrading hoptions hsent hprogress =>
      rw [hprogress]
      exact .upgrading hoptions hsent hprogress
  | failed hoptions hsent hprogress hrefuses =>
      rw [hprogress]
      exact .failed hoptions hsent hprogress hrefuses
  | visiting hvisits =>
      rw [hvisits.progress]
      exact hf _ _ hvisits

theorem reading (h : Tells o p taken c) (ended : Bool) :
    Tells o p taken (match c.progress with
      | .visiting r _ => c.read (r.buffer.length + 2) ended
      | _ => c) := by
  refine h.withVisit (f := fun r _ => c.read (r.buffer.length + 2) ended) fun r v hvisits => ?_
  obtain ⟨r', v', hvisits'⟩ := hvisits.read (r.buffer.length + 2) ended
  exact .visiting hvisits'

theorem receive (h : Tells o p taken c) (bytes : List UInt8) (ended : Bool) :
    Tells o p taken (c.receive bytes ended) := by
  refine reading ?_ ended
  cases h with
  | upgrading hoptions hsent hprogress =>
      rw [hprogress]
      exact upgrade hoptions hsent _ ended
  | failed hoptions hsent hprogress hrefuses =>
      rw [hprogress]
      exact .failed hoptions hsent hprogress hrefuses
  | visiting hvisits =>
      rw [hvisits.progress]
      exact .visiting (hvisits.withReceiver _)

theorem lingerOver (h : Tells o p taken c) : Tells o p taken c.lingerOver := by
  refine h.withVisit (f := fun r v => (c.withVisit r (v.step c.options .lingerOver)).flush)
    fun r v hvisits => ?_
  obtain ⟨v', hflushed⟩ := hvisits.linger.flush
  exact .visiting hflushed

theorem take (h : Tells o p taken c) : Tells o p (taken ++ c.output) { c with output := [] } := by
  have hall : taken ++ c.output ++ [] = taken ++ c.output := List.append_nil _
  cases h with
  | upgrading hoptions hsent hprogress =>
      exact .upgrading hoptions (hall.trans hsent) hprogress
  | failed hoptions hsent hprogress hrefuses =>
      exact .failed hoptions (hall.trans hsent) hprogress hrefuses
  | visiting hvisits =>
      obtain ⟨hoptions, hprogress, status, log, items, frames, sent, hgoes, hwrote, hown, hsent⟩ :=
        hvisits
      exact .visiting ⟨hoptions, hprogress, status, log, items, frames, sent, hgoes, hwrote, hown,
        hall.trans hsent⟩

/-- **How far a probe is**, whatever arrives. -/
theorem of_reached (h : Reached o p taken c) : Tells o p taken c := by
  induction h with
  | start => exact .upgrading rfl rfl rfl
  | receive _ bytes ended ih => exact ih.receive bytes ended
  | lingerOver _ ih => exact ih.lingerOver
  | taken _ ih => exact ih.take

end Tells

end

end Client

end SocketGateway.Probe

namespace SocketGateway.Loopback.World

open SocketGateway.Probe
open SocketGateway.Probe.Client (Reached Tells Refuses)
open SocketGateway.Probe.Visit (Goes begun replies eventFrame)

variable {o : Options} {p : Plan} {taken : List UInt8} {c : Client}

theorem reached_carry (w : World) (n : Nat) (h : Reached o p taken c) :
    ∃ taken', Reached o p taken' (w.carry n c).1 :=
  ⟨_, h.taken⟩

/-- A probe in a world is one that bytes arrive at, whose bytes are taken, and whose time passes. -/
theorem reached_probeWith (n fuel : Nat) (deadline : Option Nat) (w : World) (h : Reached o p taken c) :
    ∃ taken', Reached o p taken' (probeWith n fuel deadline c w).1 := by
  induction fuel generalizing deadline c w taken with
  | zero => exact ⟨taken, h⟩
  | succ fuel ih =>
      rw [probeWith]
      have hcarried := reached_carry w n h
      generalize w.carry n c = carried at hcarried ⊢
      obtain ⟨c₁, w₁⟩ := carried
      obtain ⟨taken₁, hcarried⟩ := hcarried
      cases hlink : w₁.settle.links[n]? with
      | none =>
          simp only [hlink]
          exact ⟨taken₁, hcarried⟩
      | some l =>
          simp only [hlink]
          have hheard := reached_carry (w₁.settle.setLink n { l with toClient := [] }) n
            (hcarried.receive l.toClient l.gatewayGone)
          generalize (w₁.settle.setLink n { l with toClient := [] }).carry n
            (c₁.receive l.toClient l.gatewayGone) = heard at hheard ⊢
          obtain ⟨c₂, w₂⟩ := heard
          obtain ⟨taken₂, hheard⟩ := hheard
          simp only
          generalize (if c₂.isVisiting = true then some (deadline.getD (w₂.now + c₂.options.linger))
            else deadline) = deadline'
          split
          · exact ⟨taken₂, hheard⟩
          · split
            · exact ih _ _ hheard
            · split
              · exact ⟨taken₂, hheard⟩
              · split
                · exact ih _ _ hheard.lingerOver
                · exact ih _ _ hheard

/-- What a probe in a world gives back is the error that it could not be connected with, or comes of
what it met there. -/
theorem exists_reached_of_probe {w : World} {res : Except GatewayError Report}
    (h : (w.probe o).2.1 = some res) :
    (∃ e, Plan.ofAddress o.address = .error e ∧ res = .error (.websocket e)) ∨
      ∃ p, Plan.ofAddress o.address = .ok p ∧
        ((∃ e, w.approach p = .error e ∧ res = .error e) ∨
          ∃ taken c, Reached o p taken c ∧ c.result? = some res) := by
  rw [probe] at h
  cases hplan : Plan.ofAddress o.address with
  | error e =>
      simp only [hplan] at h
      exact .inl ⟨e, rfl, (Option.some.inj h).symm⟩
  | ok p =>
      simp only [hplan] at h
      refine .inr ⟨p, rfl, ?_⟩
      cases happroach : w.approach p with
      | error e =>
          simp only [happroach] at h
          exact .inl ⟨e, rfl, (Option.some.inj h).symm⟩
      | ok reached =>
          simp only [happroach] at h
          obtain ⟨taken, hreached⟩ :=
            reached_probeWith reached.1 (1000 + 2 * o.linger) none reached.2 (.start (o := o) (p := p))
          exact .inr ⟨taken, _, hreached, h⟩

end SocketGateway.Loopback.World

namespace SocketGateway.Probe

open SocketGateway.Http (UpgradeError)
open SocketGateway.Loopback (World)
open SocketGateway.Probe.Client (Reached Tells Refuses isOwn mask)
open SocketGateway.Probe.Visit (Goes begun replies eventFrame)
open SocketGateway.Wire (Frame)

theorem exists_goes_of_reached {o : Options} {p : Plan} {taken : List UInt8} {c : Client} {r : Report}
    (h : Reached o p taken c) (hr : c.result? = some (.ok r)) :
    ∃ status log items frames v sent, Goes o (begun status log) items frames v ∧
      v.result? = some (.ok r) ∧ (∀ e, .writeFailed e ∉ items) ∧ List.filter isOwn sent = frames ∧
      taken ++ c.output = p.request ++ sent.flatMap (·.encode (some mask)) := by
  cases Tells.of_reached h with
  | upgrading _ _ hprogress => simp [Client.result?, hprogress] at hr
  | failed _ _ hprogress _ => simp [Client.result?, hprogress] at hr
  | visiting hvisits =>
      rw [Client.result?, hvisits.progress] at hr
      obtain ⟨status, log, items, frames, sent, hgoes, hwrote, hown, hsent⟩ := hvisits.course
      exact ⟨status, log, items, frames, _, sent, hgoes, hr, hwrote, hown, hsent⟩

theorem exists_refuses_of_reached {o : Options} {p : Plan} {taken : List UInt8} {c : Client}
    {e : GatewayError} (h : Reached o p taken c) (he : c.result? = some (.error e)) :
    ∃ buffer w, Refuses buffer w ∧ e = .websocket w := by
  cases Tells.of_reached h with
  | upgrading _ _ hprogress => simp [Client.result?, hprogress] at he
  | failed _ _ hprogress hrefuses =>
      rw [Client.result?, hprogress] at he
      cases he
      exact ⟨_, _, hrefuses, rfl⟩
  | visiting hvisits =>
      -- a visit fails only where writing does
      rw [Client.result?, hvisits.progress] at he
      obtain ⟨status, log, items, frames, sent, hgoes, hwrote, -, -⟩ := hvisits.course
      obtain ⟨heard, event, w, -, rfl, -, -, -⟩ := hgoes.error_iff.mp he
      exact absurd (by simp) (hwrote w)

/-! ## The main result -/

/-- **A report tells what was heard**, and nothing else.

* Take any visit from its beginning on. If the probe reports, it heard things of which none ended the
  visit, and then one that did. It reports the status, the messages that were not greetings, in order,
  and the id of the last greeting. If the gateway or the stream ended the visit, it says so, and has
  written its event once for each greeting, if it has one, and nothing else. Otherwise its time was
  over; it does not say so, and has also written a last frame, if that could be written.
* It gives an error back exactly if its event could not be written.
* What is neither a message nor a close frame can be left out.
* Whatever frames arrive, and however the visit ends after any of them, there is a visit that hears
  just that and of which the probe reports.
* A probe on a stream reports of such a visit, in which all was written: it has sent its request, what
  the visit wrote, and answers to pings. It gives an error back only if it was refused the upgrade.
* In a world it gives that back, or the error that it could not be connected with.
* What it writes as its event is read by a gateway as that event, without arguments. -/
theorem report_tells_visit (o : Options) :
    (∀ status log items frames v r, Goes o (begun status log) items frames v →
      v.result? = some (.ok r) → ∃ heard, heard.all Item.leavesOpen ∧ r.status = status ∧
        r.messages = heard.filterMap Item.news? ∧
        r.sid = (heard.filterMap Item.greeting?).getLast? ∧
        ((r.closedByServer = true ∧ frames = replies o heard ∧
            ∃ i, i.isEnd = true ∧ items = heard ++ [i]) ∨
          (r.closedByServer = false ∧ ∃ i, items = heard ++ [.lingerOver, i] ∧
            frames = replies o heard ++ if i = .wrote then [.close none] else []))) ∧
    (∀ status log items frames v e, Goes o (begun status log) items frames v →
      (v.result? = some (.error e) ↔ ∃ heard event w, heard.all Item.leavesOpen ∧
        items = heard ++ [.writeFailed w] ∧ o.emit = some event ∧ e = .websocket w ∧
        frames ++ [eventFrame event] = replies o heard)) ∧
    (∀ v items frames v', Goes o v items frames v' →
      ∃ v'', Goes o v (items.filter fun i => !i.isIdle) frames v'' ∧ v''.report = v'.report ∧
        v''.doing = v'.doing) ∧
    (∀ v (fs : List Frame) last, v.doing = .listening → (∀ f ∈ fs, f.isClose = false) →
      last.isEnd = true ∨ last = .lingerOver → ∃ items frames w r, Goes o v items frames w ∧
        items.filter (· ≠ .wrote) = fs.map Item.inbound ++ [last] ∧ w.result? = some (.ok r)) ∧
    (∀ p taken c, Reached o p taken c →
      (∀ r, c.result? = some (.ok r) → ∃ status log items frames v sent,
        Goes o (begun status log) items frames v ∧ v.result? = some (.ok r) ∧
        (∀ e, .writeFailed e ∉ items) ∧ List.filter isOwn sent = frames ∧
        taken ++ c.output = p.request ++ sent.flatMap (·.encode (some mask))) ∧
      ∀ e, c.result? = some (.error e) → ∃ buffer w, Refuses buffer w ∧ e = .websocket w) ∧
    (∀ (w : World) res, (w.probe o).2.1 = some res →
      (∃ e, Plan.ofAddress o.address = .error e ∧ res = .error (.websocket e)) ∨
      ∃ p, Plan.ofAddress o.address = .ok p ∧
        ((∃ e, w.approach p = .error e ∧ res = .error e) ∨
          ∃ taken c, Reached o p taken c ∧ c.result? = some res)) ∧
    ∀ event, (eventFrame event).Asks (.event event []) :=
  ⟨fun _ _ _ _ _ _ hgoes hr => hgoes.of_ok hr, fun _ _ _ _ _ _ hgoes => hgoes.error_iff,
    fun _ _ _ _ hgoes => hgoes.filter,
    fun v _ _ hlistening hfs hlast => Visit.exists_goes o v hlistening hfs hlast,
    fun _ _ _ hreached => ⟨fun _ hr => exists_goes_of_reached hreached hr,
      fun _ he => exists_refuses_of_reached hreached he⟩,
    fun _ _ h => World.exists_reached_of_probe h, Visit.asks_eventFrame⟩

def eager : Options := ⟨"ws://gateway", "/", some "go", 5⟩

def greeting (sid : String) : Item := .inbound (.text (ServerMessage.connected sid "/" 1 1).encode)

/-- An error, two greetings, a text that is no message, and a ping, until the time is over. -/
def restless : List Item :=
  [.inbound (.text (ServerMessage.error "early").encode), greeting "a", .wrote,
    .inbound (.text "hello"), .inbound (.ping []), greeting "b", .wrote, .lingerOver, .wrote]

/-- It reports the error and the second id, and has written its event twice and a last frame. -/
theorem report_tells_visit_restless :
    ∃ frames v r, Goes eager (begun 101 []) restless frames v ∧ v.result? = some (.ok r) ∧
      r.messages.map ServerMessage.encode = [(ServerMessage.error "early").encode] ∧
      r.sid = some "b" ∧ r.closedByServer = false ∧
      ∃ f, frames = [f, f, .close none] ∧ f.Asks (.event "go" []) := by
  have hrun : ∃ frames v r, Visit.goThrough eager (begun 101 []) restless = some (frames, v) ∧
      v.result? = some (.ok r) := ⟨_, _, _, rfl, rfl⟩
  obtain ⟨frames, v, r, hgoes, hr⟩ := hrun
  have hgoes' := Goes.iff_goThrough.mpr hgoes
  obtain ⟨hreport, -, -, -, -, -, hasks⟩ := report_tells_visit eager
  obtain ⟨heard, -, -, hmessages, hsid, hend⟩ := hreport _ _ _ _ _ _ hgoes' hr
  refine ⟨frames, v, r, hgoes', hr, ?_⟩
  have hlast : restless = restless.take 7 ++ [.lingerOver] ++ [.wrote] := rfl
  rcases hend with ⟨-, -, i, hi, hitems⟩ | ⟨hclosed, i, hitems, hframes⟩
  · cases (List.append_inj' (hlast.symm.trans hitems) rfl).2
    cases hi
  · have hsplit := hlast.symm.trans (hitems.trans (List.append_cons _ _ _))
    obtain ⟨hbefore, hi⟩ := List.append_inj' hsplit rfl
    obtain ⟨rfl, -⟩ := List.append_inj' hbefore rfl
    cases hi
    refine ⟨?_, ?_, hclosed, eventFrame "go", ?_, hasks "go"⟩
    · rw [hmessages]
      rfl
    · rw [hsid]
      rfl
    · rw [hframes]
      rfl

end SocketGateway.Probe
