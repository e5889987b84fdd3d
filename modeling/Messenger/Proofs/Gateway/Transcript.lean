import Messenger.Gateway

set_option autoImplicit false

/-! # What is exchanged with a daemon

A *transcript* lists the calls that a daemon gets, with what it answers to each, oldest first. A
daemon that keeps one beside its state answers as it did before, so what can be said of transcripts
holds of every daemon. Here the transcript of one call is followed up to the calls that one list of
parameters takes: each parameter is the subject of one call, until a call fails
(`Gateway.callAll_carriedOut`). -/

namespace Messenger

open Json

variable {δ : Type}

/-- A call, and what came back. -/
structure Exchange where
  address : Url
  request : Rpc.Request
  response : Option Rpc.Response

/-- What a call gave. -/
def Exchange.result (x : Exchange) : Except Rpc.Error Value :=
  match x.response with
  | none => .error .unreachable
  | some r => r.resultFor x.request.id

/-- A daemon that keeps a transcript of the calls it gets. -/
def Daemon.transcribed (d : Daemon δ) : Daemon (δ × List Exchange) where
  call url request s :=
    let (response, state) := d.call url request s.1
    (response, state, s.2 ++ [⟨url, request, response⟩])
  listen url s :=
    let (connection, state) := d.listen url s.1
    (connection, state, s.2)

/-- The transcript on the other side of a link. -/
def Link.transcript (l : Link (δ × List Exchange)) : List Exchange := l.daemon.2

/-! ## One call -/

/-- A call adds itself to the transcript. -/
theorem Link.transcript_call (d : Daemon δ) (method : String) (params : Value)
    (chosen : Option String) (l : Link (δ × List Exchange)) :
    let called := l.call d.transcribed method params chosen
    called.2.2.endpoint = l.endpoint
      ∧ ∃ x : Exchange, x.address = l.endpoint.rpc ∧ x.request.method = method
        ∧ x.request.params = params ∧ x.result = called.1
        ∧ called.2.2.transcript = l.transcript ++ [x] :=
  ⟨rfl, _, rfl, rfl, rfl, rfl, rfl⟩

/-! ## Calls in turn -/

/-- Calls carry out a plan, a list of parameters, up to the first call that fails; `result` is what
they come to. -/
inductive CarriedOut (plan : List Value) :
    List Exchange → Except GatewayError (List Value) → Prop where
  /-- Every call of the plan is made, and each gives a result. -/
  | all {xs : List Exchange} {results : List Value}
      (hplan : xs.map (·.request.params) = plan)
      (hresults : xs.map Exchange.result = results.map .ok) : CarriedOut plan xs (.ok results)
  /-- The last call that is made fails, and those before it do not. -/
  | upTo {done : List Exchange} {x : Exchange} {e : Rpc.Error}
      (hplan : (done ++ [x]).map (·.request.params) <+: plan)
      (hdone : ∀ y ∈ done, ∃ v, y.result = .ok v) (hfailed : x.result = .error e) :
      CarriedOut plan (done ++ [x]) (.error (.rpc e))

/-- A call that gives a result comes before the calls of the rest of a plan. -/
theorem CarriedOut.cons {x : Exchange} {v : Value} (hx : x.result = .ok v) {plan : List Value}
    {xs : List Exchange} {result : Except GatewayError (List Value)}
    (h : CarriedOut plan xs result) :
    CarriedOut (x.request.params :: plan) (x :: xs) (result.map (v :: ·)) := by
  cases h with
  | @all _ results hplan hresults =>
      have hmore : (x :: xs).map Exchange.result = (v :: results).map .ok := by
        rw [List.map_cons, List.map_cons, hx, hresults]
      exact .all (by rw [List.map_cons, hplan]) hmore
  | @upTo done y e hplan hdone hfailed =>
      have hmore : (x :: done ++ [y]).map (·.request.params) <+: x.request.params :: plan := by
        rw [List.cons_append, List.map_cons]
        exact (List.prefix_cons_inj _).2 hplan
      exact .upTo hmore (List.forall_mem_cons.2 ⟨⟨v, hx⟩, hdone⟩) hfailed

namespace Gateway

/-- The transcript of the daemon of a gateway. -/
def transcript (g : Gateway (δ × List Exchange)) : List Exchange := g.link.transcript

/-- **Calls with several parameters** add themselves to the transcript, and carry the parameters
out. -/
theorem callAll_carriedOut (d : Daemon δ) (method : String) (plan : List Value)
    (g : Gateway (δ × List Exchange)) :
    let called := callAll d.transcribed method plan g
    ∃ xs, called.2.2.transcript = g.transcript ++ xs ∧ CarriedOut plan xs called.1
      ∧ ∀ x ∈ xs, x.address = g.link.endpoint.rpc ∧ x.request.method = method := by
  -- The rest of a plan is carried out by the gateway that the first call leaves, hence for any `g`.
  induction plan generalizing g with
  | nil => exact ⟨[], (List.append_nil _).symm, .all rfl rfl, by simp⟩
  | cons params plan ih =>
      obtain ⟨hendpoint, x, haddress, hmethod, hparams, hresult, htranscript⟩ :=
        Link.transcript_call d method params none g.link
      rcases hcall : g.link.call d.transcribed method params none with ⟨result, log, link⟩
      rw [hcall] at hendpoint hresult htranscript
      subst hparams
      cases result with
      | error e =>
          have hstop : callAll d.transcribed method (x.request.params :: plan) g
              = (.error (.rpc e), noted log, { g with link }) := by
            simp only [callAll, callMethod, hcall]
            rfl
          rw [hstop]
          have hfirst : CarriedOut (x.request.params :: plan) ([] ++ [x]) (.error (.rpc e)) :=
            .upTo (by simp) (by simp) hresult
          exact ⟨[x], htranscript, hfirst, by simpa using ⟨haddress, hmethod⟩⟩
      | ok v =>
          obtain ⟨xs, hxs, hcarried, hcalls⟩ := ih { g with link }
          have hgoOn : callAll d.transcribed method (x.request.params :: plan) g
              = ((callAll d.transcribed method plan { g with link }).1.map (v :: ·),
                  noted log ++ (callAll d.transcribed method plan { g with link }).2.1,
                  (callAll d.transcribed method plan { g with link }).2.2) := by
            simp only [callAll, callMethod, hcall]
            rfl
          rw [hgoOn]
          refine ⟨x :: xs, ?_, hcarried.cons hresult, ?_⟩
          · have hlink : transcript { g with link } = g.transcript ++ [x] := htranscript
            rw [hxs, hlink, List.append_assoc, List.singleton_append]
          · have hsame : link.endpoint = g.link.endpoint := hendpoint
            exact List.forall_mem_cons.2 ⟨⟨haddress, hmethod⟩, fun y hy => hsame ▸ hcalls y hy⟩

end Gateway

/-! ## Loading a directory -/

/-- A cache that is asked for a value leaves the state alone or loads once. -/
theorem Cache.get_state {α ε σ : Type} (load : Loader ε σ α) (now : Nat) (account : String)
    (c : Cache α) (s : σ) :
    (c.get load now account s).2.2.2 = s
      ∨ (c.get load now account s).2.2.2 = (load account s).2.2 := by
  unfold get
  split
  · exact .inl rfl
  · rcases hload : load account s with ⟨_ | _, log, s'⟩ <;> exact .inr rfl

/-- What a gateway asks for in order to know the groups of an account. -/
theorem Gateway.transcript_cachedGroups (d : Daemon δ) (account : String)
    (g : Gateway (δ × List Exchange)) :
    let loaded := g.cachedGroups d.transcribed account
    loaded.2.2.link.endpoint = g.link.endpoint
      ∧ ∃ xs, loaded.2.2.transcript = g.transcript ++ xs
        ∧ ∀ x ∈ xs, x.request.method = listGroups := by
  rcases Cache.get_state (GroupDirectory.load d.transcribed) g.now account g.groups g.link with
    hlink | hlink
  · have hsame : (g.cachedGroups d.transcribed account).2.2.link = g.link := hlink
    exact ⟨congrArg Link.endpoint hsame, [],
      (congrArg Link.transcript hsame).trans (List.append_nil _).symm, by simp⟩
  · obtain ⟨hendpoint, x, -, hmethod, -, -, htranscript⟩ := Link.transcript_call d listGroups
      (.obj [("account", .str account)]) none g.link
    have hlast : (g.cachedGroups d.transcribed account).2.2.link
        = (g.link.call d.transcribed listGroups (.obj [("account", .str account)]) none).2.2 :=
      hlink
    exact ⟨(congrArg Link.endpoint hlast).trans hendpoint, [x],
      (congrArg Link.transcript hlast).trans htranscript, by simpa using hmethod⟩

end Messenger
