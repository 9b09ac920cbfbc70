import TagVocab.Failure

/-!
# The way of a failure

What is done to a failure while it is passed on, and what can be read off it in the end. Each step puts
an operation in charge or adds an entry to the context; by induction over the steps, the context only
grows and all else stays as it was made. The operations on the way are those that the context says were
called, with the one in charge behind them: each step puts its own behind the earlier ones, and an
operation without a name leaves no trace.
-/

namespace TagVocab.Failure

/-- One thing that is done to a failure as it is passed on. -/
inductive Step where
  | operation (name : String)
  | context (key value : String)

namespace Step

def operations : Step → List String
  | operation name => [name]
  | context _ _ => []

def entries : Step → List (String × String)
  | operation _ => []
  | context key value => [(key, value)]

end Step

def operations (steps : List Step) : List String :=
  steps.flatMap Step.operations

def entries (steps : List Step) : List (String × String) :=
  steps.flatMap Step.entries

def pass (f : Failure) : Step → Failure
  | .operation name => f.withOperation name
  | .context key value => f.withContext key value

def passAll (f : Failure) (steps : List Step) : Failure :=
  steps.foldl pass f

theorem passAll_append (f : Failure) (steps others : List Step) :
    f.passAll (steps ++ others) = (f.passAll steps).passAll others :=
  List.foldl_append

/-- Those of `names` that name an operation. The empty text stands for none. -/
def named (names : List String) : List String :=
  names.filter (· ≠ "")

theorem named_append (names others : List String) :
    named (names ++ others) = named names ++ named others :=
  List.filter_append _ _

/-- The operations that the context says were called, and behind them the one in charge. -/
def chain (f : Failure) : List String :=
  (f.context.filter (·.1 = "called")).map (·.2) ++ named [f.operation]

/-- Whether `g` is `f` with more in its context: the entries `added` in their order, and besides them
only called operations. -/
structure Carries (f : Failure) (added : List (String × String)) (g : Failure) : Prop where
  kind_eq : g.kind = f.kind
  message_eq : g.message = f.message
  origin_eq : g.origin = f.origin
  grown : ∃ more, g.context = f.context ++ more ∧ added.Sublist more ∧
    more.filter (·.1 ≠ "called") = added.filter (·.1 ≠ "called")

namespace Carries

variable {f g : Failure} {added : List (String × String)}

theorem refl (f : Failure) : f.Carries [] f :=
  ⟨rfl, rfl, rfl, [], (List.append_nil _).symm, List.Sublist.refl _, rfl⟩

theorem trans (h : f.Carries added g) {others : List (String × String)} {k : Failure}
    (hk : g.Carries others k) : f.Carries (added ++ others) k := by
  obtain ⟨more, hcontext, hsub, hfilter⟩ := h.grown
  obtain ⟨later, hcontext', hsub', hfilter'⟩ := hk.grown
  refine ⟨hk.kind_eq.trans h.kind_eq, hk.message_eq.trans h.message_eq,
    hk.origin_eq.trans h.origin_eq, more ++ later, ?_, hsub.append hsub', ?_⟩
  · rw [hcontext', hcontext, List.append_assoc]
  · rw [List.filter_append, List.filter_append, hfilter, hfilter']

theorem context_grows (h : f.Carries added g) : f.context <+: g.context := by
  obtain ⟨more, hcontext, -⟩ := h.grown
  exact ⟨more, hcontext.symm⟩

end Carries

theorem withOperation_of_unnamed {f : Failure} (h : f.operation = "") (name : String) :
    f.withOperation name = { f with operation := name } := by
  simp [withOperation, h]

theorem withOperation_of_named {f : Failure} (h : f.operation ≠ "") (name : String) :
    f.withOperation name =
      { f with context := f.context ++ [("called", f.operation)], operation := name } := by
  simp [withOperation, h]

theorem carries_pass (f : Failure) (step : Step) : f.Carries step.entries (f.pass step) := by
  cases step with
  | operation name =>
    rw [pass]
    by_cases h : f.operation = ""
    · rw [withOperation_of_unnamed h]
      exact ⟨rfl, rfl, rfl, [], (List.append_nil _).symm, List.nil_sublist _, rfl⟩
    · rw [withOperation_of_named h]
      exact ⟨rfl, rfl, rfl, [("called", f.operation)], rfl, List.nil_sublist _, rfl⟩
  | context key value =>
    exact ⟨rfl, rfl, rfl, [(key, value)], rfl, List.Sublist.refl _, rfl⟩

theorem carries_passAll (f : Failure) (steps : List Step) :
    f.Carries (entries steps) (f.passAll steps) := by
  induction steps generalizing f with
  | nil => exact .refl f
  | cons step steps ih => exact (f.carries_pass step).trans (ih (f.pass step))

/-- An operation has the same place in the chain while it is in charge and when it has moved into the
context. -/
theorem chain_pass (f : Failure) {step : Step} (h : ∀ entry ∈ step.entries, entry.1 ≠ "called") :
    (f.pass step).chain = f.chain ++ named step.operations := by
  cases step with
  | operation name =>
    rw [pass]
    by_cases hf : f.operation = ""
    · rw [withOperation_of_unnamed hf]
      simp [chain, hf, named, Step.operations]
    · rw [withOperation_of_named hf]
      simp [chain, hf, named, Step.operations]
  | context key value =>
    have hkey : key ≠ "called" := h (key, value) (List.mem_singleton_self _)
    simp [pass, withContext, chain, hkey, named, Step.operations]

theorem chain_passAll (f : Failure) {steps : List Step}
    (h : ∀ entry ∈ entries steps, entry.1 ≠ "called") :
    (f.passAll steps).chain = f.chain ++ named (operations steps) := by
  induction steps generalizing f with
  | nil => exact (List.append_nil _).symm
  | cons step steps ih =>
    obtain ⟨hstep, hsteps⟩ := List.forall_mem_append.mp h
    calc (f.passAll (step :: steps)).chain
        = (f.pass step).chain ++ named (operations steps) := ih (f.pass step) hsteps
      _ = f.chain ++ (named step.operations ++ named (operations steps)) := by
          rw [chain_pass f hstep, List.append_assoc]
      _ = f.chain ++ named (operations (step :: steps)) := by
          rw [← named_append]
          rfl

/-- What a failure is first made from: a kind and a message, or trouble that the system reports. -/
inductive Cause where
  | fault (kind : FailureKind) (message : String)
  | system (e : SystemError)

namespace Cause

def failure : Cause → Failure
  | fault kind message => { kind, message }
  | system e => e.failure

def operations : Cause → List String
  | fault _ _ => []
  | system _ => ["io"]

end Cause

/-- Trouble of the system becomes a failure like any other, with `io` in charge of it. -/
theorem failure_eq_passAll (e : SystemError) :
    e.failure =
      ((Cause.fault e.kind e.message).failure.passAll [.operation "io"]).withOrigin
        ⟨e.message, e.report⟩ :=
  rfl

theorem context_failure (cause : Cause) : cause.failure.context = [] := by
  cases cause <;> rfl

theorem chain_failure (cause : Cause) : cause.failure.chain = named cause.operations := by
  cases cause with
  | fault kind message => rfl
  | system e =>
    rw [Cause.failure, failure_eq_passAll]
    apply chain_passAll
    intro entry hentry
    nomatch hentry

/-- Whether `f` tells all of its way: of its cause and of the `steps` that it was passed on by. -/
structure TellsAll (cause : Cause) (steps : List Step) (f : Failure) : Prop where
  kind_eq : f.kind = cause.failure.kind
  message_eq : f.message = cause.failure.message
  origin_eq : f.origin = cause.failure.origin
  grows : ∀ earlier later, steps = earlier ++ later →
    (cause.failure.passAll earlier).context <+: f.context
  entries_sublist : (entries steps).Sublist f.context
  filter_context : f.context.filter (·.1 ≠ "called") = (entries steps).filter (·.1 ≠ "called")
  chain_eq : (∀ entry ∈ entries steps, entry.1 ≠ "called") →
    f.chain = named (cause.operations ++ operations steps)

/-- Steps in any order leave the kind, the message and the origin of a failure as they were made, and
keep all that was in the context before, followed by their own entries in order. As long as these do
not pass for called operations, the chain is that of all operations of the way that have a name. -/
theorem passAll_tellsAll (cause : Cause) (steps : List Step) :
    TellsAll cause steps (cause.failure.passAll steps) := by
  have h := cause.failure.carries_passAll steps
  obtain ⟨more, hcontext, hsub, hfilter⟩ := h.grown
  rw [context_failure, List.nil_append] at hcontext
  refine ⟨h.kind_eq, h.message_eq, h.origin_eq, ?_, hcontext ▸ hsub, hcontext ▸ hfilter, ?_⟩
  · intro earlier later hsteps
    rw [hsteps, passAll_append]
    exact (carries_passAll _ later).context_grows
  · intro hentries
    rw [chain_passAll _ hentries, chain_failure, named_append]

example : ((Cause.system (.custom "NotFound" "no file")).failure.passAll
      [.operation "", .context "path" "parse.y", .operation "read", .operation "",
        .operation "run"]).chain = ["io", "read", "run"] := by decide

end TagVocab.Failure
