import StackMachine.Machine.Loader
import StackMachine.Proofs.Counting

/-!
# Requests to a loader

A loader is asked for machines by a text or by a kind, over and over. Its constructors can be any
three: they may have a state of their own, make anything, fail, and count for themselves.
`Loader.observed` is the same loader with an account of the calls of its constructors.

A request for a kind is what the loader counts and reports, and then the constructor of the kind
(`Loader.serve_perform_of_some`); a text that selects no kind is counted and reported, and no more
(`Loader.serve_perform_of_none`). So one request makes one call or none (`Loader.serve_observed`),
and from this follows what any number of requests come to (`Loader.one_call_each`).
-/

namespace StackMachine

namespace Loader

variable {σ μ : Type} {mw : Meanwhile}

/-! ### Requests and calls -/

inductive Request
  | byText (path : String) (warn : Bool) (text : String)
  | byKind (path : String) (warn : Bool) (kind : Backend)

namespace Request

def path : Request → String
  | byText path _ _ => path
  | byKind path _ _ => path

def warn : Request → Bool
  | byText _ warn _ => warn
  | byKind _ warn _ => warn

/-- The kind that is asked for, unless the text selects none. -/
def kind? : Request → Option Backend
  | byText _ _ text => Backend.ofText? text
  | byKind _ _ kind => some kind

def isByText : Request → Bool
  | byText _ _ _ => true
  | byKind _ _ _ => false

def call? (r : Request) : Option Call := r.kind?.map fun kind => ⟨kind, r.path, r.warn⟩

def counted (r : Request) : List String :=
  (if r.isByText then ["loader.requests"] else []) ++
    match r.kind? with
    | some kind => [kind.counter]
    | none => ["loader.rejected"]

end Request

def serve {m : Type → Type} [Monad m] [MonadLiftT Action m] (loader : Loader m μ) :
    Request → ExceptT LoaderFailure m μ
  | .byText path warn text => loader.load path warn text
  | .byKind path warn kind => loader.loadKind path warn kind

/-- The answers to requests, one after the other; a failure does not end them. -/
def serveAll {m : Type → Type} [Monad m] [MonadLiftT Action m] (loader : Loader m μ)
    (requests : List Request) : m (List (Except LoaderFailure μ)) :=
  requests.mapM fun r => (loader.serve r).run

/-- A call of a constructor, what it ended with, and what it counted. -/
structure Invocation (μ : Type) where
  call : Call
  outcome : Except Failure μ
  counted : List String

/-- The same loader, which adds to an account what each recorded call of a constructor ended with,
and what it counted. -/
def observed (loader : Loader (StateT σ Action) μ) :
    Loader (StateT (σ × List (Invocation μ)) Action) μ :=
  let observe (kind : Backend) : Constructor (StateT (σ × List (Invocation μ)) Action) μ :=
    fun path warn => ExceptT.mk fun (s, account) => do
      let (((outcome, calls), s), counted) ←
        (((loader.recorded.constructor kind path warn).run.run #[]).run s).tallied
      return (outcome, s, account ++ calls.toList.map fun call => ⟨call, outcome, counted⟩)
  ⟨observe .reference, observe .native, observe .instrumented⟩

/-! ### One request -/

/-- What a loader itself does to the world when it gets a request. -/
def noted (mw : Meanwhile) (w : World) : Request → World
  | .byText path warn text =>
    match Backend.ofText? text with
    | some kind =>
      ((w.count "loader.requests").report mw (.loading kind path warn)).count kind.counter
    | none => ((w.count "loader.requests").count "loader.rejected").report mw (.rejectedKind text)
  | .byKind path warn kind => (w.report mw (.loading kind path warn)).count kind.counter

/-- A loader counts for itself what its requests ask for. -/
theorem counters_noted (w : World) (r : Request) :
    (noted mw w r).counters = w.counters.incrementAll r.counted := by
  cases r with
  | byText path warn text =>
    simp only [noted, Request.counted, Request.isByText, Request.kind?]
    cases Backend.ofText? text with
    | some kind => rfl
    | none => rfl
  | byKind path warn kind => rfl

variable (loader : Loader (StateT σ Action) μ) (s : σ) (w : World)

/-- A kind needs no choice: its constructor runs, and a failure of it is passed on. -/
theorem loadKind_perform (path : String) (warn : Bool) (kind : Backend) :
    ((loader.loadKind path warn kind).run.run s).perform mw w =
      let made := ((loader.constructor kind path warn).run.run s).perform mw
        ((w.report mw (.loading kind path warn)).count kind.counter)
      ((made.1.1.mapError .backend, made.1.2), made.2) := by
  -- The report and the count come first; what is left is the constructor.
  show ((fun x : Except Failure μ × σ => (x.1.mapError LoaderFailure.backend, x.2)) <$>
    (loader.constructor kind path warn).run.run s).perform mw _ = _
  exact Action.perform_map mw _ _ _

/-- A request for a kind runs the constructor of this kind. -/
theorem serve_perform_of_some {r : Request} {kind : Backend} (h : r.kind? = some kind) :
    ((loader.serve r).run.run s).perform mw w =
      let made := ((loader.constructor kind r.path r.warn).run.run s).perform mw (noted mw w r)
      ((made.1.1.mapError .backend, made.1.2), made.2) := by
  cases r with
  | byText path warn text =>
    have htext : Backend.ofText? text = some kind := h
    simp only [serve, load, noted, htext]
    exact loadKind_perform loader s (w.count "loader.requests") path warn kind
  | byKind path warn other =>
    cases h
    exact loadKind_perform loader s w path warn kind

/-- A text that selects no kind runs nothing. -/
theorem serve_perform_of_none (path : String) (warn : Bool) {text : String}
    (h : Backend.ofText? text = none) :
    ((loader.serve (.byText path warn text)).run.run s).perform mw w =
      ((.error (.unrecognized text), s), noted mw w (.byText path warn text)) := by
  simp only [serve, load, noted, h]
  rfl

/-- The constructors of an observed loader do what they did, and the account says what that was. -/
theorem observed_perform (mw : Meanwhile) (kind : Backend) (path : String) (warn : Bool)
    (account : List (Invocation μ)) :
    let made := ((loader.constructor kind path warn).run.run s).perform mw w
    ∃ counted, ((loader.observed.constructor kind path warn).run.run (s, account)).perform mw w =
        ((made.1.1, made.1.2, account ++ [⟨⟨kind, path, warn⟩, made.1.1, counted⟩]), made.2) ∧
      made.2.counters = w.counters.incrementAll counted := by
  intro made
  -- The recorded constructor does what the constructor does, and its only entry is this call.
  have hrecorded : (((loader.recorded.constructor kind path warn).run.run #[]).run s).perform mw w =
      (((made.1.1, #[⟨kind, path, warn⟩]), made.1.2), made.2) := by
    cases kind
    all_goals exact (Action.perform_bind mw _ _ w).trans rfl
  obtain ⟨counted, htally, hcounters⟩ := Action.perform_tallied mw
    (((loader.recorded.constructor kind path warn).run.run #[]).run s) w
  rw [hrecorded] at htally hcounters
  refine ⟨counted, ?_, hcounters⟩
  cases kind
  all_goals
    refine (Action.perform_bind mw _ _ w).trans ?_
    rw [htally]
    rfl

/-! ### Any number of requests -/

theorem serveAll_cons (r : Request) (rest : List Request) :
    ((loader.serveAll (r :: rest)).run s).perform mw w =
      let first := ((loader.serve r).run.run s).perform mw w
      let others := ((loader.serveAll rest).run first.1.2).perform mw first.2
      ((first.1.1 :: others.1.1, others.1.2), others.2) := by
  unfold serveAll
  rw [List.mapM_cons]
  refine (Action.perform_bind mw _ _ w).trans ?_
  exact (Action.perform_bind mw _ _ _).trans rfl

/-- The answer to a request whose constructor was called: the machine, or a failure that reads like
that of the constructor. -/
def Passed : Except Failure μ → Except LoaderFailure μ → Prop
  | .ok machine, answer => answer = .ok machine
  | .error cause, answer =>
    ∃ failure, answer = .error failure ∧ failure = .backend cause ∧
      failure.message = cause.message ∧ failure.causes = cause.causes

/-- To wrap a failure keeps its message and its causes. -/
theorem passed_mapError (outcome : Except Failure μ) :
    Passed outcome (outcome.mapError .backend) := by
  cases outcome with
  | ok machine => rfl
  | error cause => exact ⟨.backend cause, rfl, rfl, rfl, rfl⟩

/-- What requests come to: the calls that are made for them, in order, and their answers. -/
inductive Concluded :
    List Request → List (Invocation μ) → List (Except LoaderFailure μ) → Prop
  | nil : Concluded [] [] []
  | rejected {path : String} {warn : Bool} {text : String} {requests invocations answers}
      (h : Backend.ofText? text = none) (rest : Concluded requests invocations answers) :
      Concluded (.byText path warn text :: requests) invocations
        (.error (.unrecognized text) :: answers)
  | routed {r : Request} {kind : Backend} {outcome : Except Failure μ}
      {answer : Except LoaderFailure μ} {counted : List String} {requests invocations answers}
      (h : r.kind? = some kind) (hpassed : Passed outcome answer)
      (rest : Concluded requests invocations answers) :
      Concluded (r :: requests) (⟨⟨kind, r.path, r.warn⟩, outcome, counted⟩ :: invocations)
        (answer :: answers)

/-- The calls made are those requested, in order. -/
theorem Concluded.calls {requests : List Request} {invocations : List (Invocation μ)}
    {answers : List (Except LoaderFailure μ)} (h : Concluded requests invocations answers) :
    invocations.map Invocation.call = requests.filterMap Request.call? := by
  induction h with
  | nil => rfl
  | rejected h _ ih => simpa [Request.call?, Request.kind?, h] using ih
  | routed h _ _ ih => simpa [Request.call?, h] using ih

/-- What one request comes to: a call and its answer, or no call. -/
theorem serve_observed (mw : Meanwhile) (r : Request) (account : List (Invocation μ)) :
    ∃ invocations answer s' w',
      ((loader.observed.serve r).run.run (s, account)).perform mw w =
        ((answer, s', account ++ invocations), w') ∧
      ((loader.serve r).run.run s).perform mw w = ((answer, s'), w') ∧
      w'.counters =
        w.counters.incrementAll (r.counted ++ invocations.flatMap Invocation.counted) ∧
      ∀ {requests others answers}, Concluded requests others answers →
        Concluded (r :: requests) (invocations ++ others) (answer :: answers) := by
  cases hkind : r.kind? with
  | none =>
    -- Only a text can select no kind.
    match r with
    | .byKind path warn kind => cases hkind
    | .byText path warn text =>
      refine ⟨[], .error (.unrecognized text), s, noted mw w (.byText path warn text), ?_,
        serve_perform_of_none loader s w path warn hkind, ?_, .rejected hkind⟩
      · rw [List.append_nil]
        exact serve_perform_of_none loader.observed (s, account) w path warn hkind
      · rw [List.flatMap_nil, List.append_nil]
        exact counters_noted w _
  | some kind =>
    obtain ⟨counted, hmade, hcounters⟩ :=
      observed_perform loader s (noted mw w r) mw kind r.path r.warn account
    refine ⟨[⟨⟨kind, r.path, r.warn⟩, _, counted⟩], _, _, _, ?_,
      serve_perform_of_some loader s w hkind, ?_, .routed hkind (passed_mapError _)⟩
    · rw [serve_perform_of_some loader.observed (s, account) w hkind, hmade]
    · rw [hcounters, counters_noted, Counters.incrementAll_append]
      exact congrArg _ (List.append_nil counted).symm

/-- The run of requests with an account and the one without, side by side. What is counted is what
the loader counts and what the constructors count. -/
theorem serveAll_observed (mw : Meanwhile) (requests : List Request)
    (account : List (Invocation μ)) :
    ∃ invocations answers s' w',
      ((loader.observed.serveAll requests).run (s, account)).perform mw w =
        ((answers, s', account ++ invocations), w') ∧
      ((loader.serveAll requests).run s).perform mw w = ((answers, s'), w') ∧
      Concluded requests invocations answers ∧
      ∃ names, w'.counters = w.counters.incrementAll names ∧
        ∀ name, names.count name = (requests.flatMap Request.counted).count name +
          (invocations.flatMap Invocation.counted).count name := by
  -- State, account and world go on from request to request, so all three are general.
  induction requests generalizing s account w with
  | nil => exact ⟨[], [], s, w, by rw [List.append_nil]; rfl, rfl, .nil, [], rfl, fun _ => rfl⟩
  | cons r rest ih =>
    obtain ⟨first, answer, s₁, w₁, hobserved, hplain, hw₁, hconcluded⟩ :=
      serve_observed loader s w mw r account
    obtain ⟨others, answers, s', w', hobserved', hplain', hrest, names, hw', hcount⟩ :=
      ih s₁ w₁ (account ++ first)
    refine ⟨first ++ others, answer :: answers, s', w', ?_, ?_, hconcluded hrest,
      r.counted ++ first.flatMap Invocation.counted ++ names, ?_, ?_⟩
    · rw [serveAll_cons, hobserved]
      simp only [hobserved', List.append_assoc]
    · rw [serveAll_cons, hplain]
      simp only [hplain']
    · rw [hw', hw₁, ← Counters.incrementAll_append]
    · intro name
      simp only [List.flatMap_cons, List.flatMap_append, List.count_append, hcount name]
      omega

/-! ### Counters -/

namespace Request

/-- A name is counted once for each request that a test selects, if so for each single one. -/
theorem count_flatMap_counted {name : String} {p : Request → Bool}
    (h : ∀ r : Request, r.counted.count name = (p r).toNat) (requests : List Request) :
    (requests.flatMap counted).count name = requests.countP p := by
  induction requests with
  | nil => rfl
  | cons r rest ih =>
    rw [List.flatMap_cons, List.count_append, List.countP_cons, ih, h r, Nat.add_comm]
    cases p r with
    | false => rfl
    | true => rfl

/-- A text is counted as a request, whether it selects a kind or not; a kind is not. -/
theorem count_counted_requests (r : Request) :
    r.counted.count "loader.requests" = r.isByText.toNat := by
  unfold counted
  cases r.isByText <;> rcases r.kind? with _ | _ | _ | _ <;> decide

theorem count_counted_rejected (r : Request) :
    r.counted.count "loader.rejected" = (decide (r.kind? = none)).toNat := by
  unfold counted
  cases r.isByText <;> rcases r.kind? with _ | _ | _ | _ <;> decide

theorem count_counted_kind (kind : Backend) (r : Request) :
    r.counted.count kind.counter = (decide (r.kind? = some kind)).toNat := by
  unfold counted
  cases r.isByText <;> rcases r.kind? with _ | _ | _ | _ <;> cases kind <;> decide

theorem count_counted_other {name : String} (hrequests : name ≠ "loader.requests")
    (hrejected : name ≠ "loader.rejected") (hkind : ∀ kind : Backend, name ≠ kind.counter)
    (r : Request) : name ∉ r.counted := by
  unfold counted
  cases r.isByText <;> rcases r.kind? with _ | kind <;>
    simp [hrequests, hrejected, hkind]

theorem countP_isByText (requests : List Request) :
    requests.countP isByText + requests.countP (fun r => !r.isByText) = requests.length := by
  have h := List.length_eq_countP_add_countP isByText (l := requests)
  simpa using h.symm

/-- Each request is for no kind or for one of the three. -/
theorem countP_kind (requests : List Request) :
    requests.countP (·.kind? = none) + requests.countP (·.kind? = some .reference) +
      requests.countP (·.kind? = some .native) + requests.countP (·.kind? = some .instrumented) =
    requests.length := by
  induction requests with
  | nil => rfl
  | cons r rest ih =>
    simp only [List.countP_cons, List.length_cons]
    rcases r.kind? with _ | _ | _ | _ <;> simp <;> omega

end Request

/-- The counters before and after requests, apart from what constructors count. -/
structure Accounted (requests : List Request) (before after : Counters) : Prop where
  requests_growth : Counters.growth before after "loader.requests" =
    .ofNat (requests.countP Request.isByText)
  rejected_growth : Counters.growth before after "loader.rejected" =
    .ofNat (requests.countP (·.kind? = none))
  kind_growth : ∀ kind : Backend, Counters.growth before after kind.counter =
    .ofNat (requests.countP (·.kind? = some kind))
  balance : Counters.growth before after "loader.requests" +
      .ofNat (requests.countP fun r => !r.isByText) =
    Counters.growth before after "loader.rejected" + Counters.growth before after "loader.go" +
      Counters.growth before after "loader.cpp" + Counters.growth before after "loader.test"
  others : ∀ name, name ≠ "loader.requests" → name ≠ "loader.rejected" →
    (∀ kind : Backend, name ≠ kind.counter) → after.get name = before.get name

/-- The balance of all counters follows from how often each name is counted. -/
theorem accounted_of_growth {requests : List Request} {before after : Counters}
    (h : ∀ name, Counters.growth before after name =
      .ofNat ((requests.flatMap Request.counted).count name)) :
    Accounted requests before after := by
  have hrequests := (h "loader.requests").trans
    (congrArg _ (Request.count_flatMap_counted Request.count_counted_requests requests))
  have hrejected := (h "loader.rejected").trans
    (congrArg _ (Request.count_flatMap_counted Request.count_counted_rejected requests))
  have hkind (kind : Backend) := (h kind.counter).trans
    (congrArg _ (Request.count_flatMap_counted (Request.count_counted_kind kind) requests))
  refine ⟨hrequests, hrejected, hkind, ?_, ?_⟩
  · -- Either side is the number of requests.
    have hgo : Counters.growth before after "loader.go" = _ := hkind .reference
    have hcpp : Counters.growth before after "loader.cpp" = _ := hkind .native
    have htest : Counters.growth before after "loader.test" = _ := hkind .instrumented
    rw [hrequests, hrejected, hgo, hcpp, htest]
    simp only [← UInt64.ofNat_add, Request.countP_kind, Request.countP_isByText]
  · intro name h₁ h₂ h₃
    have hnone : (requests.flatMap Request.counted).count name = 0 := by
      rw [List.count_eq_zero, List.mem_flatMap]
      rintro ⟨r, -, hr⟩
      exact Request.count_counted_other h₁ h₂ h₃ r hr
    have hgrowth := h name
    rw [hnone] at hgrowth
    exact (UInt64.sub_eq_iff_eq_add.mp hgrowth).trans (UInt64.zero_add _)

/-! ### The result -/

/-- **A request calls one constructor, if it is for a kind, and none otherwise.** The calls that are
made for any number of requests are those the requests are for, in their order and each of them
once; each request is answered with what its call ended with, or with the text that selects no kind.
The counters grow by what the requests ask for, on top of what the constructors count themselves;
so if these count nothing, by this alone. -/
theorem one_call_each (loader : Loader (StateT σ Action) μ) (requests : List Request)
    (mw : Meanwhile) (s : σ) (w : World) :
    ∃ invocations answers s' w',
      ((loader.observed.serveAll requests).run (s, [])).perform mw w =
        ((answers, s', invocations), w') ∧
      ((loader.serveAll requests).run s).perform mw w = ((answers, s'), w') ∧
      invocations.map Invocation.call = requests.filterMap Request.call? ∧
      Concluded requests invocations answers ∧
      Accounted requests (w.counters.incrementAll (invocations.flatMap Invocation.counted))
        w'.counters := by
  obtain ⟨invocations, answers, s', w', hobserved, hplain, hconcluded, names, hw', hcount⟩ :=
    serveAll_observed loader s w mw requests []
  refine ⟨invocations, answers, s', w', hobserved, hplain, hconcluded.calls, hconcluded,
    accounted_of_growth ?_⟩
  intro name
  rw [hw', Counters.growth, Counters.get_incrementAll, Counters.get_incrementAll, hcount name,
    UInt64.ofNat_add]
  -- What the constructors count is on both sides.
  rw [UInt64.add_comm (.ofNat _) (.ofNat _), ← UInt64.add_assoc, UInt64.add_comm (_ + _)]
  exact UInt64.add_sub_cancel _ _

/-- Constructors that fail at every second call, whichever of them that is. -/
example :
    let fickle : Constructor (StateT Nat Action) String := fun path _ =>
      ExceptT.mk fun n => return (if n % 2 = 0 then .ok path else .error .emptyProgram, n + 1)
    let loader : Loader (StateT Nat Action) String := ⟨fickle, fickle, fickle⟩
    let requests : List Request :=
      [.byText "a" true "GO", .byText "b" true "wasm", .byKind "c" false .native]
    let run := ((loader.observed.serveAll requests).run (0, [])).performAlone .empty
    run.1 = ([.ok "a", .error (.unrecognized "wasm"), .error (.backend .emptyProgram)], 2,
      [⟨⟨.reference, "a", true⟩, .ok "a", []⟩,
        ⟨⟨.native, "c", false⟩, .error .emptyProgram, []⟩]) ∧
    run.2.counters = [("loader.requests", 2), ("loader.go", 1), ("loader.rejected", 1),
      ("loader.cpp", 1)] := by
  exact ⟨rfl, rfl⟩

end Loader

end StackMachine
