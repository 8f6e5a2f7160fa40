import DomFlow.Sandbox.Emulation
import Mathlib.Data.List.Basic
import Mathlib.Data.List.Induction

/-! # Runs of the sandbox side by side

A run of the sandbox has two parties. The engine calls sinks, and each call of a sink writes to the run's log
what the sink was given, if that is a decoy; when the engine is done, it sends how it ended. The caller waits
for that message, but not forever, and then takes the log. An engine that nobody waits for any longer is not
stopped, so it may go on writing after its log was taken, and other runs may start meanwhile.

The parties share nothing but the log and the one message, and each of their actions happens at one moment.
An execution is therefore a list of actions of any parties in any order, and what holds of every execution
holds whichever way the parties are scheduled. -/

namespace DomFlow.Sandbox

/-- How far the engine of a run is. -/
inductive EngineState where
  /-- It is never started. -/
  | absent
  | running
  /-- It has sent what it left uncaught, if anything; it makes no more calls. -/
  | finished (fault : Option Fault)
deriving DecidableEq

/-- How far the caller of a run is. -/
inductive CallerState where
  | waiting
  /-- It waits no longer and knows what to say of the end, but has not yet taken the log. -/
  | leaving (stop : Option Stop)
  | returned (findings : List Finding) (stop : Option Stop)
deriving DecidableEq

/-- A run with its two parties and the place of its log. -/
structure Job where
  options : Options
  code : String
  log : Nat
  engine : EngineState
  caller : CallerState
deriving DecidableEq

/-- Whether the script of a run is too large to be run at all. -/
def Job.Oversized (j : Job) : Prop := j.options.maxSourceBytes < j.code.utf8ByteSize

def Job.opened (o : Options) (code : String) (log : Nat) : Job :=
  if code.utf8ByteSize > o.maxSourceBytes then
    { options := o, code, log, engine := .absent
      caller := .leaving (some (.tooLarge code.utf8ByteSize o.maxSourceBytes)) }
  else { options := o, code, log, engine := .running, caller := .waiting }

def Job.Returned (j : Job) : Prop := ∃ findings stop, j.caller = .returned findings stop

/-- What the caller knows of the end of a run. -/
def Job.ending? (j : Job) : Option (Option Stop) :=
  match j.caller with
  | .waiting => none
  | .leaving stop => some stop
  | .returned _ stop => some stop

/-- The runs so far, and the logs that they write to. -/
structure Pool where
  jobs : List Job := []
  logs : List (List Finding) := []
deriving DecidableEq

/-- An action of a party; runs are known by their numbers. -/
inductive Event where
  /-- Somebody asks for a run. -/
  | start (o : Options) (code : String)
  /-- The engine calls a sink with a value. -/
  | call (job : Nat) (sink : HostSink) (value : Val)
  /-- The engine sends how it ended. -/
  | finish (job : Nat) (fault : Option Fault)
  /-- The caller receives how the engine ended. -/
  | receive (job : Nat)
  /-- The caller gives up waiting. -/
  | timeOut (job : Nat)
  /-- The caller takes the log and returns. -/
  | take (job : Nat)

def Event.job? : Event → Option Nat
  | .start _ _ => none
  | .call i _ _ => some i
  | .finish i _ => some i
  | .receive i => some i
  | .timeOut i => some i
  | .take i => some i

def Event.engine? : Event → Option Nat
  | .call i _ _ => some i
  | .finish i _ => some i
  | _ => none

def Event.callOf? (i : Nat) : Event → Option (HostSink × Val)
  | .call k sink value => if k = i then some (sink, value) else none
  | _ => none

/-- The calls of sinks that the engine of a run made, in order. -/
def callsOf (i : Nat) (events : List Event) : List (HostSink × Val) := events.filterMap (Event.callOf? i)

/-- The one moment at which an action happens. -/
inductive Pool.Step : Pool → Event → Pool → Prop where
  /-- Every run gets a log of its own, which is empty. -/
  | start (s : Pool) (o : Options) (code : String) :
    Step s (.start o code) { jobs := s.jobs ++ [.opened o code s.logs.length], logs := s.logs ++ [[]] }
  | call {s : Pool} {i : Nat} {j : Job} (sink : HostSink) (value : Val)
    (hj : s.jobs[i]? = some j) (hrunning : j.engine = .running) :
    Step s (.call i sink value)
      { s with logs := s.logs.modify j.log (· ++ (SinkCall.of sink value).finding?.toList) }
  | finish {s : Pool} {i : Nat} {j : Job} (fault : Option Fault)
    (hj : s.jobs[i]? = some j) (hrunning : j.engine = .running) :
    Step s (.finish i fault) { s with jobs := s.jobs.set i { j with engine := .finished fault } }
  | receive {s : Pool} {i : Nat} {j : Job} {fault : Option Fault}
    (hj : s.jobs[i]? = some j) (hwaiting : j.caller = .waiting) (hfinished : j.engine = .finished fault) :
    Step s (.receive i) { s with jobs := s.jobs.set i { j with caller := .leaving (fault.map .fault) } }
  /-- Time may be up at any moment, also when the engine has ended and its message is on the way. -/
  | timeOut {s : Pool} {i : Nat} {j : Job} (hj : s.jobs[i]? = some j) (hwaiting : j.caller = .waiting) :
    Step s (.timeOut i)
      { s with jobs := s.jobs.set i { j with caller := .leaving (some (.timedOut j.options.timeoutMs)) } }
  | take {s : Pool} {i : Nat} {j : Job} {log : List Finding} {stop : Option Stop}
    (hj : s.jobs[i]? = some j) (hleaving : j.caller = .leaving stop) (hlog : s.logs[j.log]? = some log) :
    Step s (.take i)
      { jobs := s.jobs.set i { j with caller := .returned log stop }, logs := s.logs.set j.log [] }

/-- The actions so far and the pool that they lead to. -/
inductive Execution : List Event → Pool → Prop where
  | nil : Execution [] {}
  | snoc {events : List Event} {e : Event} {s t : Pool} (hs : Execution events s) (he : s.Step e t) :
    Execution (events ++ [e]) t

theorem Execution.of_snoc {events : List Event} {e : Event} {t : Pool} (h : Execution (events ++ [e]) t) :
    ∃ s, Execution events s ∧ s.Step e t := by
  generalize hall : events ++ [e] = all at h
  cases h with
  | nil => exact absurd hall (by simp)
  | snoc hs he =>
    obtain ⟨rfl, hlast⟩ := List.append_inj' hall rfl
    cases hlast
    exact ⟨_, hs, he⟩

/-- The report of a call: only a text that is one of the three decoys is worth one. -/
def reported : HostSink × Val → Option Finding
  | (sink, .str s) =>
    if s.toString = "#payload" ∨ s.toString = "?q=payload"
        ∨ s.toString = "https://victim.example/?q=payload#payload" then
      some
        { source := "Emulator"
          sink := "Obfuscated Sink"
          description := "Decoy location value reached " ++ sink.text ++ " during sandboxed execution"
          evidence := s.toString }
    else none
  | _ => none

theorem finding?_of (sink : HostSink) (value : Val) :
    (SinkCall.of sink value).finding? = reported (sink, value) := by
  cases value with
  | str s =>
    simp only [SinkCall.of, SinkCall.finding?, reported, isDecoy, Decoy.markers, List.mem_cons,
      List.not_mem_nil, or_false, decide_eq_true_eq]
    rfl
  | _ => rfl

@[simp]
theorem callsOf_append (i : Nat) (before after : List Event) :
    callsOf i (before ++ after) = callsOf i before ++ callsOf i after := List.filterMap_append

theorem callsOf_snoc_call (i : Nat) (events : List Event) (sink : HostSink) (value : Val) :
    callsOf i (events ++ [.call i sink value]) = callsOf i events ++ [(sink, value)] := by
  simp [callsOf, Event.callOf?]

theorem callsOf_snoc_of_none {i : Nat} (events : List Event) {e : Event} (h : e.callOf? i = none) :
    callsOf i (events ++ [e]) = callsOf i events := by
  simp [callsOf, h]

theorem callOf?_of_silent {i : Nat} {e : Event} (h : e.engine? ≠ some i) : e.callOf? i = none := by
  cases e with
  | call k sink value => exact if_neg fun hk => h (congrArg some hk)
  | _ => rfl

theorem callsOf_silent {i : Nat} {events : List Event} (h : ∀ e ∈ events, e.engine? ≠ some i) :
    callsOf i events = [] :=
  List.filterMap_eq_nil_iff.mpr fun e he => callOf?_of_silent (h e he)

theorem engine?_of_foreign {i : Nat} {e : Event} (h : e.job? ≠ some i) : e.engine? ≠ some i := by
  cases e with
  | call | finish => exact h
  | _ => exact nofun

/-- The course of the run of number `i` through all actions: what its own actions make of the run and of
its log, while those of other runs pass it by. -/
inductive Course (i : Nat) : List Event → Job → List Finding → Prop where
  | opened (events : List Event) (o : Options) (code : String) (hnew : ∀ e ∈ events, e.job? ≠ some i) :
    Course i (events ++ [.start o code]) (.opened o code i) []
  | foreign {events : List Event} {j : Job} {log : List Finding} (e : Event) (hforeign : e.job? ≠ some i)
    (h : Course i events j log) : Course i (events ++ [e]) j log
  | call {events : List Event} {j : Job} {log : List Finding} (sink : HostSink) (value : Val)
    (hrunning : j.engine = .running) (h : Course i events j log) :
    Course i (events ++ [.call i sink value]) j (log ++ (reported (sink, value)).toList)
  | finish {events : List Event} {j : Job} {log : List Finding} (fault : Option Fault)
    (hrunning : j.engine = .running) (h : Course i events j log) :
    Course i (events ++ [.finish i fault]) { j with engine := .finished fault } log
  | receive {events : List Event} {j : Job} {log : List Finding} {fault : Option Fault}
    (hwaiting : j.caller = .waiting) (hfinished : j.engine = .finished fault) (h : Course i events j log) :
    Course i (events ++ [.receive i]) { j with caller := .leaving (fault.map .fault) } log
  | timeOut {events : List Event} {j : Job} {log : List Finding} (hwaiting : j.caller = .waiting)
    (h : Course i events j log) :
    Course i (events ++ [.timeOut i])
      { j with caller := .leaving (some (.timedOut j.options.timeoutMs)) } log
  | take {events : List Event} {j : Job} {log : List Finding} {stop : Option Stop}
    (hleaving : j.caller = .leaving stop) (h : Course i events j log) :
    Course i (events ++ [.take i]) { j with caller := .returned log stop } []

/-- Every run writes to the log of its own number, and only runs that were asked for act. -/
structure Pool.Tidy (events : List Event) (s : Pool) : Prop where
  length_logs : s.logs.length = s.jobs.length
  log_eq : ∀ (i : Nat) (j : Job), s.jobs[i]? = some j → j.log = i
  job_lt : ∀ e ∈ events, ∀ i, e.job? = some i → i < s.jobs.length

@[simp]
theorem Job.opened_log (o : Options) (code : String) (log : Nat) : (Job.opened o code log).log = log := by
  unfold Job.opened
  split <;> rfl

theorem getElem?_set_cases {α : Type} {l : List α} {i k : Nat} {a b : α} (h : (l.set i a)[k]? = some b) :
    k = i ∧ b = a ∨ k ≠ i ∧ l[k]? = some b := by
  rw [List.getElem?_set] at h
  split at h
  next hik =>
    split at h
    next => exact .inl ⟨hik.symm, (Option.some.inj h).symm⟩
    next => cases h
  next hik => exact .inr ⟨Ne.symm hik, h⟩

theorem getElem?_snoc_cases {α : Type} {l : List α} {k : Nat} {a b : α} (h : (l ++ [a])[k]? = some b) :
    k = l.length ∧ b = a ∨ l[k]? = some b := by
  rw [List.getElem?_append] at h
  split at h
  next => exact .inr h
  next hlen =>
    obtain ⟨hlt, rfl⟩ := List.getElem?_eq_some_iff.mp h
    rw [List.length_singleton] at hlt
    exact .inl ⟨by omega, List.getElem_singleton ..⟩

/-- What an action of a run leaves tidy: it neither adds a run or a log nor gives a run another log. -/
theorem Pool.Tidy.acted {events : List Event} {s t : Pool} {e : Event} {i : Nat} (h : s.Tidy events)
    (he : e.job? = some i) (hi : i < s.jobs.length) (hjobs : t.jobs.length = s.jobs.length)
    (hlogs : t.logs.length = s.logs.length)
    (hsame : ∀ (k : Nat) (j' : Job), t.jobs[k]? = some j' → ∃ j, s.jobs[k]? = some j ∧ j'.log = j.log) :
    t.Tidy (events ++ [e]) where
  length_logs := by rw [hlogs, h.length_logs, hjobs]
  log_eq := by
    intro k j' hk
    obtain ⟨j, hj, hlog⟩ := hsame k j' hk
    rw [hlog, h.log_eq k j hj]
  job_lt := by
    intro e' he' k hk
    rw [hjobs]
    rcases List.mem_append.mp he' with he' | he'
    · exact h.job_lt e' he' k hk
    · rw [List.mem_singleton.mp he', he] at hk
      exact Option.some.inj hk ▸ hi

/-- Replacing a run by one with the same log changes the log of none. -/
theorem exists_log_of_set {jobs : List Job} {i : Nat} {j j' : Job} (hj : jobs[i]? = some j)
    (hlog : j'.log = j.log) (k : Nat) (j'' : Job) (hk : (jobs.set i j')[k]? = some j'') :
    ∃ j, jobs[k]? = some j ∧ j''.log = j.log := by
  rcases getElem?_set_cases hk with ⟨rfl, rfl⟩ | ⟨-, hk⟩
  · exact ⟨j, hj, hlog⟩
  · exact ⟨j'', hk, rfl⟩

theorem Execution.tidy {events : List Event} {s : Pool} (h : Execution events s) : s.Tidy events := by
  induction h with
  | nil => exact ⟨rfl, fun i j hj => by simp at hj, fun e he => by simp at he⟩
  | @snoc events e s t _ he ih =>
    have lt {i : Nat} {j : Job} (hj : s.jobs[i]? = some j) : i < s.jobs.length :=
      (List.getElem?_eq_some_iff.mp hj).1
    cases he with
    | start o code =>
      refine ⟨by simp [ih.length_logs], fun i j hj => ?_, fun e he i hi => ?_⟩
      · rcases getElem?_snoc_cases hj with ⟨rfl, rfl⟩ | hj
        · rw [Job.opened_log, ih.length_logs]
        · exact ih.log_eq i j hj
      · rw [List.length_append]
        rcases List.mem_append.mp he with he | he
        · exact Nat.lt_add_right _ (ih.job_lt e he i hi)
        · rw [List.mem_singleton.mp he] at hi
          cases hi
    | call _ _ hj _ => exact ih.acted rfl (lt hj) rfl (List.length_modify ..) fun _ j' hk => ⟨j', hk, rfl⟩
    | finish _ hj _ | receive hj _ _ | timeOut hj _ =>
      exact ih.acted rfl (lt hj) (List.length_set ..) rfl (exists_log_of_set hj rfl)
    | take hj _ _ =>
      exact ih.acted rfl (lt hj) (List.length_set ..) (List.length_set ..) (exists_log_of_set hj rfl)

/-- Runs do not meddle with each other: through any execution, each takes the course of its own actions. -/
theorem Execution.course {events : List Event} {s : Pool} (h : Execution events s) {i : Nat} {j : Job}
    {log : List Finding} (hj : s.jobs[i]? = some j) (hlog : s.logs[i]? = some log) :
    Course i events j log := by
  induction h generalizing j log with
  | nil => simp at hj
  | @snoc events e s t hs he ih =>
    have htidy := hs.tidy
    have foreign {k : Nat} (hik : i ≠ k) : some k ≠ some i := fun hk => hik (Option.some.inj hk).symm
    cases he with
    | start o code =>
      rcases getElem?_snoc_cases hj with ⟨rfl, rfl⟩ | hj
      · rw [← htidy.length_logs, List.getElem?_concat_length] at hlog
        cases hlog
        rw [htidy.length_logs]
        exact .opened events o code fun e he hi => Nat.lt_irrefl _ (htidy.job_lt e he _ hi)
      · rcases getElem?_snoc_cases hlog with ⟨rfl, -⟩ | hlog
        · rw [htidy.length_logs, List.getElem?_length] at hj
          cases hj
        · exact .foreign _ nofun (ih hj hlog)
    | @call k jk sink value hk hrunning =>
      simp only [htidy.log_eq k jk hk, finding?_of, List.getElem?_modify] at hlog
      obtain ⟨old, hold, rfl⟩ := Option.map_eq_some_iff.mp hlog
      by_cases hik : i = k
      · subst hik
        cases hk.symm.trans hj
        rw [if_pos rfl]
        exact .call sink value hrunning (ih hj hold)
      · rw [if_neg (Ne.symm hik)]
        exact .foreign _ (foreign hik) (ih hj hold)
    | finish fault hk hrunning =>
      rcases getElem?_set_cases hj with ⟨rfl, rfl⟩ | ⟨hik, hj⟩
      · exact .finish fault hrunning (ih hk hlog)
      · exact .foreign _ (foreign hik) (ih hj hlog)
    | receive hk hwaiting hfinished =>
      rcases getElem?_set_cases hj with ⟨rfl, rfl⟩ | ⟨hik, hj⟩
      · exact .receive hwaiting hfinished (ih hk hlog)
      · exact .foreign _ (foreign hik) (ih hj hlog)
    | timeOut hk hwaiting =>
      rcases getElem?_set_cases hj with ⟨rfl, rfl⟩ | ⟨hik, hj⟩
      · exact .timeOut hwaiting (ih hk hlog)
      · exact .foreign _ (foreign hik) (ih hj hlog)
    | @take k jk taken stop hk hleaving htaken =>
      rw [htidy.log_eq k jk hk] at htaken
      simp only [htidy.log_eq k jk hk] at hlog
      rcases getElem?_set_cases hj with ⟨rfl, rfl⟩ | ⟨hik, hj⟩
      · rcases getElem?_set_cases hlog with ⟨-, rfl⟩ | ⟨hik, -⟩
        · exact .take hleaving (ih hk htaken)
        · exact absurd rfl hik
      · rcases getElem?_set_cases hlog with ⟨rfl, -⟩ | ⟨-, hlog⟩
        · exact absurd rfl hik
        · exact .foreign _ (foreign hik) (ih hj hlog)

theorem mem_of_mem_snoc {events : List Event} {a e : Event} (h : a ∈ events ++ [e]) (hne : a ≠ e) :
    a ∈ events := by
  rcases List.mem_append.mp h with h | h
  · exact h
  · exact absurd (List.mem_singleton.mp h) hne

namespace Course

variable {i : Nat} {events : List Event} {j : Job} {log : List Finding}

/-- Until it is taken, the log holds the reports of all calls so far. -/
theorem log_eq (h : Course i events j log) (hj : ¬ j.Returned) :
    log = (callsOf i events).filterMap reported := by
  induction h with
  | opened events o code hnew =>
    rw [callsOf_snoc_of_none _ rfl, callsOf_silent fun e he => engine?_of_foreign (hnew e he), List.filterMap_nil]
  | foreign e hforeign _ ih => rw [callsOf_snoc_of_none _ (callOf?_of_silent (engine?_of_foreign hforeign)), ← ih hj]
  | call sink value _ _ ih =>
    rw [callsOf_snoc_call, List.filterMap_append, ← ih hj]
    cases hcall : reported (sink, value) <;> simp [hcall]
  | finish _ _ _ ih => rw [callsOf_snoc_of_none _ rfl, ← ih hj]
  | receive hwaiting _ _ ih | timeOut hwaiting _ ih =>
    rw [callsOf_snoc_of_none _ rfl]
    refine ih fun ⟨findings, stop, hj⟩ => ?_
    cases hwaiting.symm.trans hj
  | take => exact absurd ⟨_, _, rfl⟩ hj

theorem mem_of_finished (h : Course i events j log) {fault : Option Fault}
    (hj : j.engine = .finished fault) : .finish i fault ∈ events := by
  induction h with
  | opened events o code =>
    unfold Job.opened at hj
    split at hj <;> cases hj
  | finish fault' hrunning h ih =>
    cases hj
    exact List.mem_append_right _ List.mem_cons_self
  | foreign _ _ _ ih | call _ _ _ _ ih | receive _ _ _ ih | timeOut _ _ ih | take _ _ ih =>
    exact List.mem_append_left _ (ih hj)

/-- What a caller says of the end is what the engine sent, unless it says that the script was too large or
that time was up. -/
theorem finished_of_ending (h : Course i events j log) {fault : Option Fault}
    (hj : j.ending? = some (fault.map .fault)) : j.engine = .finished fault := by
  induction h with
  | opened events o code =>
    unfold Job.opened at hj
    split at hj <;> cases fault <;> cases hj
  | foreign _ _ _ ih | call _ _ _ _ ih => exact ih hj
  | finish _ hrunning _ ih => cases hrunning.symm.trans (ih hj)
  | receive hwaiting hfinished =>
    rw [← Option.map_injective (fun _ _ => Stop.fault.inj) (Option.some.inj hj)]
    exact hfinished
  | timeOut => cases fault <;> cases hj
  | take hleaving _ ih =>
    refine ih ?_
    rw [Job.ending?, hleaving]
    exact hj

theorem ending_of_mem_receive (h : Course i events j log) (hmem : .receive i ∈ events) :
    ∃ fault : Option Fault, j.ending? = some (fault.map .fault) := by
  induction h with
  | opened events o code hnew => exact absurd rfl (hnew _ (mem_of_mem_snoc hmem nofun))
  | foreign e hforeign _ ih => exact ih (mem_of_mem_snoc hmem fun he => hforeign (he ▸ rfl))
  | call _ _ _ _ ih | finish _ _ _ ih => exact ih (mem_of_mem_snoc hmem nofun)
  | receive => exact ⟨_, rfl⟩
  | timeOut hwaiting _ ih =>
    obtain ⟨fault, hending⟩ := ih (mem_of_mem_snoc hmem nofun)
    rw [Job.ending?, hwaiting] at hending
    cases hending
  | take hleaving _ ih =>
    obtain ⟨fault, hending⟩ := ih (mem_of_mem_snoc hmem nofun)
    rw [Job.ending?, hleaving] at hending
    exact ⟨fault, hending⟩

theorem returned_of_mem_take (h : Course i events j log) (hmem : .take i ∈ events) :
    j.Returned := by
  induction h with
  | opened events o code hnew => exact absurd rfl (hnew _ (mem_of_mem_snoc hmem nofun))
  | foreign e hforeign _ ih => exact ih (mem_of_mem_snoc hmem fun he => hforeign (he ▸ rfl))
  | call _ _ _ _ ih | finish _ _ _ ih => exact ih (mem_of_mem_snoc hmem nofun)
  | receive hwaiting _ _ ih | timeOut hwaiting _ ih =>
    obtain ⟨findings, stop, hj⟩ := ih (mem_of_mem_snoc hmem nofun)
    cases hwaiting.symm.trans hj
  | take => exact ⟨_, _, rfl⟩

/-- The engine of a script that is too large does nothing, and the caller knows at once. -/
theorem oversized (h : Course i events j log) (hj : j.Oversized) :
    j.engine = .absent ∧ (∀ e ∈ events, e.engine? ≠ some i) ∧
      j.ending? = some (some (.tooLarge j.code.utf8ByteSize j.options.maxSourceBytes)) := by
  have snoc {events : List Event} {last : Event} (hall : ∀ e ∈ events, e.engine? ≠ some i)
      (hlast : last.engine? ≠ some i) : ∀ e ∈ events ++ [last], e.engine? ≠ some i :=
    List.forall_mem_append.mpr ⟨hall, List.forall_mem_singleton.mpr hlast⟩
  induction h with
  | opened events o code hnew =>
    have hsize : code.utf8ByteSize > o.maxSourceBytes := by
      unfold Job.Oversized Job.opened at hj
      split at hj <;> assumption
    rw [Job.opened, if_pos hsize]
    exact ⟨rfl, snoc (fun e he => engine?_of_foreign (hnew e he)) nofun, rfl⟩
  | foreign e hforeign _ ih =>
    obtain ⟨hengine, hall, hending⟩ := ih hj
    exact ⟨hengine, snoc hall (engine?_of_foreign hforeign), hending⟩
  | call _ _ hrunning _ ih | finish _ hrunning _ ih => cases hrunning.symm.trans (ih hj).1
  | receive hwaiting _ _ ih | timeOut hwaiting _ ih =>
    have hending := (ih hj).2.2
    rw [Job.ending?, hwaiting] at hending
    cases hending
  | take hleaving _ ih =>
    obtain ⟨hengine, hall, hending⟩ := ih hj
    rw [Job.ending?, hleaving] at hending
    exact ⟨hengine, snoc hall nofun, hending⟩

end Course

/-- What the caller of a run took are the reports of the calls before its log was taken; if it received the
end of the engine, these were all. -/
def Took (i : Nat) (events : List Event) (findings : List Finding) (stop : Option Stop) : Prop :=
  ∃ before after, events = before ++ .take i :: after ∧
    findings = (callsOf i before).filterMap reported ∧
    ∀ fault : Option Fault, stop = fault.map .fault → .finish i fault ∈ before ∧ callsOf i after = []

theorem Took.snoc {i : Nat} {events : List Event} {findings : List Finding} {stop : Option Stop}
    (h : Took i events findings stop) {e : Event}
    (he : ∀ fault : Option Fault, stop = fault.map .fault → e.callOf? i = none) :
    Took i (events ++ [e]) findings stop := by
  obtain ⟨before, after, rfl, hfindings, hreceived⟩ := h
  refine ⟨before, after ++ [e], by simp, hfindings, fun fault hstop => ?_⟩
  obtain ⟨hfinish, hafter⟩ := hreceived fault hstop
  exact ⟨hfinish, by rw [callsOf_snoc_of_none _ (he fault hstop), hafter]⟩

theorem Course.took {i : Nat} {events : List Event} {j : Job} {log : List Finding}
    (h : Course i events j log) {findings : List Finding} {stop : Option Stop}
    (hj : j.caller = .returned findings stop) : Took i events findings stop := by
  induction h with
  | opened events o code =>
    unfold Job.opened at hj
    split at hj <;> cases hj
  | foreign e hforeign _ ih => exact (ih hj).snoc fun _ _ => callOf?_of_silent (engine?_of_foreign hforeign)
  | call sink value hrunning h ih =>
    refine (ih hj).snoc fun fault hstop => ?_
    have hfinished : _ = EngineState.finished fault := h.finished_of_ending (by rw [Job.ending?, hj, hstop])
    cases hrunning.symm.trans hfinished
  | finish _ _ _ ih => exact (ih hj).snoc fun _ _ => rfl
  | receive | timeOut => cases hj
  | @take events j log stop' hleaving h =>
    cases hj
    refine ⟨events, [], rfl, h.log_eq ?_, fun fault hstop => ⟨h.mem_of_finished ?_, rfl⟩⟩
    · rintro ⟨findings, stop, hj⟩
      cases hleaving.symm.trans hj
    · exact h.finished_of_ending (by rw [Job.ending?, hleaving, hstop])

theorem Execution.exists_course {events : List Event} {s : Pool} (h : Execution events s) {i : Nat}
    {j : Job} (hj : s.jobs[i]? = some j) : ∃ log, Course i events j log := by
  have hi : i < s.logs.length := h.tidy.length_logs ▸ (List.getElem?_eq_some_iff.mp hj).1
  exact ⟨_, h.course hj (List.getElem?_eq_getElem hi)⟩

/-- Pools with the same runs, whose logs may differ once they were taken. -/
structure Pool.SameButTaken (s t : Pool) : Prop where
  jobs : t.jobs = s.jobs
  length_logs : t.logs.length = s.logs.length
  logs : ∀ (i : Nat) (j : Job), s.jobs[i]? = some j → ¬ j.Returned → t.logs[j.log]? = s.logs[j.log]?

/-- A call of a run whose log was taken changes nothing but this log. -/
theorem Pool.Tidy.sameButTaken_call {events : List Event} {s t : Pool} (h : s.Tidy events) {i : Nat}
    {sink : HostSink} {value : Val} (he : s.Step (.call i sink value) t)
    (hreturned : ∀ j, s.jobs[i]? = some j → j.Returned) : t.SameButTaken s := by
  cases he with
  | @call _ j _ _ hj =>
    refine ⟨rfl, (List.length_modify ..).symm, fun k jk hk hnot => ?_⟩
    have hik : i ≠ k := by
      rintro rfl
      exact hnot (hreturned jk hk)
    rw [h.log_eq i j hj, h.log_eq k jk hk, List.getElem?_modify]
    simp [hik]

namespace Pool.SameButTaken

variable {s t : Pool}

/-- A run may be replaced in both pools, if its log stays and is not given back. -/
theorem set (h : s.SameButTaken t) {i : Nat} {j j' : Job} (hj : s.jobs[i]? = some j)
    (hlog : j'.log = j.log) (hnot : ¬ j'.Returned → ¬ j.Returned) :
    SameButTaken { s with jobs := s.jobs.set i j' } { t with jobs := t.jobs.set i j' } where
  jobs := by rw [h.jobs]
  length_logs := h.length_logs
  logs := by
    intro k jk hk hjk
    rcases getElem?_set_cases hk with ⟨rfl, rfl⟩ | ⟨-, hk⟩
    · rw [hlog]
      exact h.logs k j hj (hnot hjk)
    · exact h.logs k jk hk hjk

/-- Whatever can happen in the one pool can happen in the other. -/
theorem step (h : s.SameButTaken t) {e : Event} {s' : Pool} (he : s.Step e s') :
    ∃ t', t.Step e t' ∧ s'.SameButTaken t' := by
  have not_returned {j : Job} {c : CallerState} (hj : j.caller = c)
      (hc : ∀ findings stop, c ≠ .returned findings stop) : ¬ j.Returned := fun ⟨findings, stop, hr⟩ =>
    hc findings stop (hj.symm.trans hr)
  cases he with
  | start o code =>
    refine ⟨_, .start t o code, ⟨?_, ?_, ?_⟩⟩
    · rw [h.jobs, h.length_logs]
    · simp [h.length_logs]
    · intro k j hk hj
      rw [List.getElem?_append, List.getElem?_append, h.length_logs]
      rcases getElem?_snoc_cases hk with ⟨-, rfl⟩ | hk
      · simp
      · rw [h.logs k j hk hj]
  | call sink value hk hrunning =>
    refine ⟨_, .call sink value (h.jobs ▸ hk) hrunning, h.jobs, ?_, fun k j hk hj => ?_⟩
    · simp [h.length_logs]
    · rw [List.getElem?_modify, List.getElem?_modify, h.logs k j hk hj]
  | finish fault hk hrunning => exact ⟨_, .finish fault (h.jobs ▸ hk) hrunning, h.set hk rfl id⟩
  | receive hk hwaiting hfinished =>
    exact ⟨_, .receive (h.jobs ▸ hk) hwaiting hfinished, h.set hk rfl fun _ => not_returned hwaiting nofun⟩
  | timeOut hk hwaiting =>
    exact ⟨_, .timeOut (h.jobs ▸ hk) hwaiting, h.set hk rfl fun _ => not_returned hwaiting nofun⟩
  | @take i j log stop hk hleaving hlog =>
    have hsame := h.logs i j hk (not_returned hleaving nofun)
    refine ⟨_, .take (h.jobs ▸ hk) hleaving (hsame.trans hlog), ?_, ?_, fun k jk hjk hnot => ?_⟩
    · rw [h.jobs]
    · simp [h.length_logs]
    · rcases getElem?_set_cases hjk with ⟨rfl, rfl⟩ | ⟨-, hjk⟩
      · exact absurd ⟨_, _, rfl⟩ hnot
      · rw [List.getElem?_set, List.getElem?_set, h.length_logs, h.logs k jk hjk hnot]

end Pool.SameButTaken

/-- Leaving out a call that came after the log was taken leaves all runs as they are. -/
theorem Execution.without_late_call {before after : List Event} {i : Nat} {sink : HostSink} {value : Val}
    {s : Pool} (h : Execution (before ++ .call i sink value :: after) s) (hlate : .take i ∈ before) :
    ∃ t, Execution (before ++ after) t ∧ s.SameButTaken t := by
  -- along the actions after the call, from the last one backwards
  induction after using List.reverseRecOn generalizing s with
  | nil =>
    obtain ⟨t, ht, hcall⟩ := h.of_snoc
    rw [List.append_nil]
    refine ⟨t, ht, ht.tidy.sameButTaken_call hcall fun j hj => ?_⟩
    obtain ⟨log, hcourse⟩ := ht.exists_course hj
    exact hcourse.returned_of_mem_take hlate
  | append_singleton after e ih =>
    rw [← List.cons_append, ← List.append_assoc] at h
    obtain ⟨s₁, h₁, he⟩ := h.of_snoc
    obtain ⟨t₁, ht₁, hsame₁⟩ := ih h₁
    obtain ⟨t, ht, hsame⟩ := hsame₁.step he
    rw [← List.append_assoc]
    exact ⟨t, ht₁.snoc ht, hsame⟩

/-- A script that is not too large runs until time is up, or until its engine ends. -/
theorem trace_stop {o : Options} {code : String} (h : ¬ code.utf8ByteSize > o.maxSourceBytes) :
    (trace o code).stop = some (.timedOut o.timeoutMs) ∨
      ∃ fault : Option Fault, (trace o code).stop = fault.map .fault := by
  rw [trace, if_neg h]
  split
  next p _ =>
    unfold runProgram stopOf
    dsimp only
    split
    next v m _ => exact .inr ⟨some (m.faultOf v), rfl⟩
    next => exact .inr ⟨none, rfl⟩
    next v m _ => exact .inr ⟨some (m.faultOf v), rfl⟩
    next => exact .inr ⟨some .limit, rfl⟩
    next => exact .inl rfl
  next => exact .inr ⟨some (.error .syntaxError), rfl⟩

/-- Any call of a sink has the report of a call with some value. -/
theorem exists_value (c : SinkCall) : ∃ value, reported (c.sink, value) = c.finding? := by
  unfold SinkCall.finding?
  split
  next t _ =>
    by_cases ht : isDecoy t
    · refine ⟨.str (.ofString t), ?_⟩
      rw [if_pos ht]
      simp only [isDecoy, Decoy.markers, List.mem_cons, List.not_mem_nil, or_false, decide_eq_true_eq] at ht
      rcases ht with rfl | rfl | rfl <;> rfl
    · exact ⟨.undefined, (if_neg ht).symm⟩
  next => exact ⟨.undefined, rfl⟩

theorem exists_calls (calls : List SinkCall) :
    ∃ made : List (HostSink × Val), made.filterMap reported = calls.filterMap SinkCall.finding? := by
  induction calls with
  | nil => exact ⟨[], rfl⟩
  | cons c calls ih =>
    obtain ⟨value, hvalue⟩ := exists_value c
    obtain ⟨made, hmade⟩ := ih
    exact ⟨(c.sink, value) :: made, by rw [List.filterMap_cons, List.filterMap_cons, hvalue, hmade]⟩

/-- The engine of a single run may make any calls. -/
theorem Execution.calls {events : List Event} {j : Job} {log : List Finding}
    (h : Execution events { jobs := [j], logs := [log] }) (hlog : j.log = 0)
    (hrunning : j.engine = .running) (made : List (HostSink × Val)) :
    Execution (events ++ made.map fun c => .call 0 c.1 c.2)
      { jobs := [j], logs := [log ++ made.filterMap reported] } := by
  induction made generalizing events log with
  | nil => simpa using h
  | cons c made ih =>
    have hcall := Pool.Step.call (s := { jobs := [j], logs := [log] }) (i := 0) c.1 c.2 rfl hrunning
    rw [hlog, finding?_of] at hcall
    have hall := ih (h.snoc hcall)
    have hlogs : (reported c).toList ++ made.filterMap reported = (c :: made).filterMap reported := by
      cases hc : reported c <;> simp [hc]
    rwa [List.append_assoc, List.append_assoc, hlogs] at hall

/-- The sandbox is one of its schedules: it ends as some execution does. -/
theorem trace_execution (o : Options) (code : String) :
    ∃ events s j, Execution events s ∧ s.jobs[0]? = some j ∧ j.options = o ∧ j.code = code ∧
      j.caller = .returned (trace o code).findings (trace o code).stop := by
  have hstart : Execution [.start o code] { jobs := [.opened o code 0], logs := [[]] } :=
    Execution.nil.snoc (.start {} o code)
  by_cases hsize : code.utf8ByteSize > o.maxSourceBytes
  · rw [Job.opened, if_pos hsize] at hstart
    have htrace : trace o code
        = { calls := [], stop := some (.tooLarge code.utf8ByteSize o.maxSourceBytes) } := if_pos hsize
    have htake := hstart.snoc (.take (i := 0) rfl rfl rfl)
    exact ⟨_, _, _, htake, rfl, rfl, rfl, by rw [htrace]; rfl⟩
  · rw [Job.opened, if_neg hsize] at hstart
    obtain ⟨made, hmade⟩ := exists_calls (trace o code).calls
    have hcalls := hstart.calls rfl rfl made
    rw [List.nil_append, hmade] at hcalls
    rcases trace_stop hsize with hstop | ⟨fault, hstop⟩
    · have htimeOut := hcalls.snoc (.timeOut (i := 0) rfl rfl)
      have htake := htimeOut.snoc (.take (i := 0) rfl rfl rfl)
      exact ⟨_, _, _, htake, rfl, rfl, rfl, by rw [hstop]; rfl⟩
    · have hfinish := hcalls.snoc (.finish (i := 0) fault rfl rfl)
      have hreceive := hfinish.snoc (.receive (i := 0) rfl rfl rfl)
      have htake := hreceive.snoc (.take (i := 0) rfl rfl rfl)
      exact ⟨_, _, _, htake, rfl, rfl, rfl, by rw [hstop]; rfl⟩

/-- However the parties of any runs are scheduled, what a run returns are, in order, the reports of a prefix
of the calls of its engine: of those made before its log was taken, and of all of them if it received the end
of the engine. The engine of a script that is too large does nothing. A call made after the log was taken
changes nothing in what any run returns. The sandbox itself ends as some execution does. -/
theorem runs_report_their_calls :
    (∀ {events : List Event} {s : Pool}, Execution events s → ∀ {i : Nat} {j : Job}, s.jobs[i]? = some j →
      (∀ findings stop, j.caller = .returned findings stop →
        ∃ before after, events = before ++ .take i :: after ∧
          callsOf i before <+: callsOf i events ∧
          findings = (callsOf i before).filterMap reported ∧
          (.receive i ∈ events → ∃ fault : Option Fault, stop = fault.map .fault) ∧
          ∀ fault : Option Fault, stop = fault.map .fault →
            .finish i fault ∈ before ∧ callsOf i before = callsOf i events) ∧
      (j.code.utf8ByteSize > j.options.maxSourceBytes →
        (∀ e ∈ events, e.engine? ≠ some i) ∧
        ∀ findings stop, j.caller = .returned findings stop →
          findings = [] ∧ stop = some (.tooLarge j.code.utf8ByteSize j.options.maxSourceBytes))) ∧
    (∀ {before after : List Event} {i : Nat} {sink : HostSink} {value : Val} {s : Pool},
      Execution (before ++ .call i sink value :: after) s → .take i ∈ before →
        ∃ t, Execution (before ++ after) t ∧ t.jobs = s.jobs) ∧
    ∀ (o : Options) (code : String), ∃ events s j,
      Execution events s ∧ s.jobs[0]? = some j ∧ j.options = o ∧ j.code = code ∧
        j.caller = .returned (trace o code).findings (trace o code).stop := by
  refine ⟨fun {events s} h {i j} hj => ?_, fun h hlate => ?_, trace_execution⟩
  · obtain ⟨log, hcourse⟩ := h.exists_course hj
    refine ⟨fun findings stop hreturned => ?_, fun hsize => ?_⟩
    · have hending : j.ending? = some stop := by rw [Job.ending?, hreturned]
      obtain ⟨before, after, rfl, hfindings, hreceived⟩ := hcourse.took hreturned
      have hcalls : callsOf i (before ++ .take i :: after) = callsOf i before ++ callsOf i after := by
        rw [callsOf_append]
        rfl
      refine ⟨before, after, rfl, hcalls ▸ List.prefix_append .., hfindings, fun hmem => ?_,
        fun fault hstop => ?_⟩
      · obtain ⟨fault, hfault⟩ := hcourse.ending_of_mem_receive hmem
        exact ⟨fault, Option.some.inj (hending.symm.trans hfault)⟩
      · obtain ⟨hfinish, hafter⟩ := hreceived fault hstop
        exact ⟨hfinish, by rw [hcalls, hafter, List.append_nil]⟩
    · obtain ⟨-, hsilent, hending⟩ := hcourse.oversized hsize
      refine ⟨hsilent, fun findings stop hreturned => ?_⟩
      rw [Job.ending?, hreturned] at hending
      obtain ⟨before, after, rfl, hfindings, -⟩ := hcourse.took hreturned
      rw [callsOf_silent fun e he => hsilent e (List.mem_append_left _ he)] at hfindings
      exact ⟨hfindings, Option.some.inj hending⟩
  · obtain ⟨t, ht, hsame⟩ := h.without_late_call hlate
    exact ⟨t, ht, hsame.jobs⟩

/-- Three runs: the time of the first is up, and its engine calls once more after the log was taken; the
second ends; the script of the third is too large. -/
def overtime : List Event :=
  [.start {} "a", .start {} "b", .call 0 .eval (.str (.ofString "#payload")),
    .call 1 .documentWrite (.str (.ofString "?q=payload")), .call 0 .setTimeout .undefined, .timeOut 0,
    .start { maxSourceBytes := 2 } "eval()", .take 0, .call 0 .outerHtml (.str (.ofString "#payload")),
    .finish 1 none, .receive 1, .take 2, .take 1]

theorem runs_report_their_calls_overtime :
    ∃ s, Execution overtime s ∧
      s.jobs.map Job.caller =
        [.returned [.ofDecoy "eval" "#payload"] (some (.timedOut 5000)),
          .returned [.ofDecoy "document.write" "?q=payload"] none, .returned [] (some (.tooLarge 6 2))] ∧
      (∃ calls, calls <+: callsOf 0 overtime ∧
        [Finding.ofDecoy "eval" "#payload"] = calls.filterMap reported) ∧
      [Finding.ofDecoy "document.write" "?q=payload"] = (callsOf 1 overtime).filterMap reported ∧
      (∀ e ∈ overtime, e.engine? ≠ some 2) ∧
      ∃ t, Execution (overtime.take 8 ++ overtime.drop 9) t ∧ t.jobs = s.jobs := by
  have h := Execution.nil.snoc (.start {} {} "a")
  have h := h.snoc (.start _ {} "b")
  have h := h.snoc (.call (i := 0) .eval (.str (.ofString "#payload")) rfl rfl)
  have h := h.snoc (.call (i := 1) .documentWrite (.str (.ofString "?q=payload")) rfl rfl)
  have h := h.snoc (.call (i := 0) .setTimeout .undefined rfl rfl)
  have h := h.snoc (.timeOut (i := 0) rfl rfl)
  have h := h.snoc (.start _ { maxSourceBytes := 2 } "eval()")
  have h := h.snoc (.take (i := 0) rfl rfl rfl)
  have h := h.snoc (.call (i := 0) .outerHtml (.str (.ofString "#payload")) rfl rfl)
  have h := h.snoc (.finish (i := 1) none rfl rfl)
  have h := h.snoc (.receive (i := 1) rfl rfl rfl)
  have h := h.snoc (.take (i := 2) rfl rfl rfl)
  have h := h.snoc (.take (i := 1) rfl rfl rfl)
  obtain ⟨before, _, _, hpre, hfirst, -⟩ :=
    (runs_report_their_calls.1 h (i := 0) rfl).1 [.ofDecoy "eval" "#payload"] (some (.timedOut 5000)) rfl
  obtain ⟨_, _, _, -, hsecond, -, hall⟩ :=
    (runs_report_their_calls.1 h (i := 1) rfl).1 [.ofDecoy "document.write" "?q=payload"] none rfl
  rw [(hall none rfl).2] at hsecond
  have hthird := (runs_report_their_calls.1 h (i := 2) rfl).2 (by decide)
  have hlate : Execution (overtime.take 8 ++ .call 0 .outerHtml (.str (.ofString "#payload")) ::
    overtime.drop 9) _ := h
  exact ⟨_, h, by decide, ⟨_, hpre, hfirst⟩, hsecond, hthird.1,
    runs_report_their_calls.2.1 hlate (by simp [overtime])⟩

end DomFlow.Sandbox
