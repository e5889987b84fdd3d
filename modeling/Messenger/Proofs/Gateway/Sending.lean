import Mathlib.Data.List.Forall2
import Messenger.Proofs.Gateway.Transcript

set_option autoImplicit false

/-! # What sending does

A delivery is carried out by one call for each group that it names, or by one for all persons if it
names no groups. Its targets are told here without the loop that looks names up
(`Delivery.targets`), and what a call says without the parameters that are put together for it
(`Delivery.Says`). Sending is shown to call the targets in turn, up to the first failure
(`Gateway.send_calls`). -/

namespace Messenger

open Json

variable {δ : Type}

/-! ## Plans -/

/-- To whom one call goes. -/
inductive Target where
  | group (id : String)
  | persons (recipients : List String)
deriving DecidableEq

/-- How a call names its target. -/
def Target.member : Target → String × Value
  | .group id => ("group-id", .str id)
  | .persons recipients => ("recipient", .strings recipients)

/-- The methods by which things are sent. -/
inductive Outgoing.SentBy : Outgoing → String → Prop where
  | text {body quote attachment} : SentBy (.text body quote attachment) "send"
  | reaction {emoji author target remove} :
      SentBy (.reaction emoji author target remove) "sendReaction"
  | deletion {target} : SentBy (.deletion target) "remoteDelete"

/-- What a call says of the thing that is sent, name by name. -/
inductive Outgoing.Says : Outgoing → String → Value → Prop where
  | message {body quote attachment} : Says (.text body quote attachment) "message" (.str body)
  | quoteTimestamp {body attachment} {q : Quote} :
      Says (.text body (some q) attachment) "quote-timestamp" (.ofInt64 q.timestamp)
  | quoteAuthor {body attachment} {q : Quote} :
      Says (.text body (some q) attachment) "quote-author" (.str q.author)
  | quoteMessage {body attachment} {q : Quote} :
      Says (.text body (some q) attachment) "quote-message" (.str q.message)
  | quoteMention {body attachment timestamp author message mention} :
      Says (.text body (some ⟨timestamp, author, message, some mention⟩) attachment)
        "quote-mention" (.str mention)
  | attachment {body quote} {a : Attachment} :
      Says (.text body quote (some a)) "attachment" (.str a.descriptor)
  | emoji {emoji author target remove} :
      Says (.reaction emoji author target remove) "emoji" (.str emoji)
  | targetAuthor {emoji author target remove} :
      Says (.reaction emoji author target remove) "target-author" (.str author)
  | reactedTimestamp {emoji author target remove} :
      Says (.reaction emoji author target remove) "target-timestamp" (.ofInt64 target)
  | remove {emoji author target remove} :
      Says (.reaction emoji author target remove) "remove" (.bool remove)
  | deletedTimestamp {target} : Says (.deletion target) "target-timestamp" (.ofInt64 target)

namespace Outgoing

theorem sentBy_method (content : Outgoing) : content.SentBy content.method := by
  cases content with
  | text => exact .text
  | reaction => exact .reaction
  | deletion => exact .deletion

/-- The parameters of what is sent are what a call says of it. -/
theorem mem_params_iff (content : Outgoing) (key : String) (v : Value) :
    (key, v) ∈ content.params ↔ content.Says key v := by
  constructor
  · intro hmem
    cases content with
    | text body quote attachment =>
        simp only [params, List.mem_cons, List.mem_append, Prod.mk.injEq] at hmem
        rcases hmem with ⟨rfl, rfl⟩ | hmem | hmem
        · exact .message
        · rcases quote with - | ⟨timestamp, author, message, - | mention⟩
          · cases hmem
          all_goals
            simp only [quoteParams, List.append_nil, List.cons_append, List.nil_append,
              List.mem_cons, List.not_mem_nil, or_false, Prod.mk.injEq] at hmem
          · rcases hmem with ⟨rfl, rfl⟩ | ⟨rfl, rfl⟩ | ⟨rfl, rfl⟩
            · exact .quoteTimestamp
            · exact .quoteAuthor
            · exact .quoteMessage
          · rcases hmem with ⟨rfl, rfl⟩ | ⟨rfl, rfl⟩ | ⟨rfl, rfl⟩ | ⟨rfl, rfl⟩
            · exact .quoteTimestamp
            · exact .quoteAuthor
            · exact .quoteMessage
            · exact .quoteMention
        · cases attachment with
          | none => cases hmem
          | some a =>
              obtain ⟨rfl, rfl⟩ := Prod.mk.inj (List.mem_singleton.1 hmem)
              exact .attachment
    | reaction emoji author target remove =>
        simp only [params, List.mem_cons, List.not_mem_nil, or_false, Prod.mk.injEq] at hmem
        rcases hmem with ⟨rfl, rfl⟩ | ⟨rfl, rfl⟩ | ⟨rfl, rfl⟩ | ⟨rfl, rfl⟩
        · exact .emoji
        · exact .targetAuthor
        · exact .reactedTimestamp
        · exact .remove
    | deletion target =>
        obtain ⟨rfl, rfl⟩ := Prod.mk.inj (List.mem_singleton.1 hmem)
        exact .deletedTimestamp
  · intro hsays
    cases hsays <;> simp [params, quoteParams, attachmentParams]

/-- No parameter is given twice, and none says on whose behalf or to whom. -/
theorem keys_params (content : Outgoing) :
    (content.params.map Prod.fst).Nodup
      ∧ ∀ key ∈ ["account", "group-id", "recipient"], key ∉ content.params.map Prod.fst := by
  cases content with
  | text body quote attachment =>
      rcases quote with - | ⟨timestamp, author, message, - | mention⟩ <;>
        cases attachment <;> simp [params, quoteParams, attachmentParams]
  | reaction emoji author target remove => simp [params]
  | deletion target => simp [params]

end Outgoing

namespace Delivery

/-- To whom the calls of a delivery go, given what is known of the groups of its account: to every
group that it names, else to all its recipients at once. -/
def targets (delivery : Delivery) (directory : Except GatewayError GroupDirectory) :
    Except GatewayError (List Target) :=
  if delivery.groups ≠ [] then
    directory.map fun groups =>
      ((delivery.groups.filterMap groups.resolve).map Group.id).eraseDups.map .group
  else if delivery.recipients ≠ [] then .ok [.persons delivery.recipients.eraseDups]
  else .error .noRecipients

/-- What a call of a delivery says, name by name. -/
inductive Says (delivery : Delivery) : Target → String → Value → Prop where
  | account {t : Target} : Says delivery t "account" (.str delivery.account)
  | content {t : Target} {key : String} {v : Value} (h : delivery.content.Says key v) :
      Says delivery t key v
  | group {id : String} : Says delivery (.group id) "group-id" (.str id)
  | persons {recipients : List String} :
      Says delivery (.persons recipients) "recipient" (.arr (recipients.map .str))

/-- The parameters of a call say of a delivery what is to be said, each thing once, and nothing
else. -/
def Carries (delivery : Delivery) (t : Target) (params : Value) : Prop :=
  ∃ ms : Members, params = .obj ms ∧ (ms.map Prod.fst).Nodup
    ∧ ∀ key v, (key, v) ∈ ms ↔ delivery.Says t key v

/-- The parameters of the call to someone. -/
def paramsTo (delivery : Delivery) (t : Target) : Value := .obj (delivery.params ++ [t.member])

theorem says_iff (delivery : Delivery) (t : Target) (key : String) (v : Value) :
    delivery.Says t key v ↔ (key, v) = ("account", .str delivery.account)
      ∨ delivery.content.Says key v ∨ (key, v) = t.member := by
  constructor
  · intro hsays
    cases hsays with
    | account => exact .inl rfl
    | content hsays => exact .inr (.inl hsays)
    | group => exact .inr (.inr rfl)
    | persons => exact .inr (.inr rfl)
  · rintro (heq | hsays | heq)
    · obtain ⟨rfl, rfl⟩ := Prod.mk.inj heq
      exact .account
    · exact .content hsays
    · cases t with
      | group id =>
          obtain ⟨rfl, rfl⟩ := Prod.mk.inj heq
          exact .group
      | persons recipients =>
          obtain ⟨rfl, rfl⟩ := Prod.mk.inj heq
          exact .persons

/-- The call to someone says what is to be said. -/
theorem carries_paramsTo (delivery : Delivery) (t : Target) :
    delivery.Carries t (delivery.paramsTo t) := by
  obtain ⟨hnodup, hfree⟩ := delivery.content.keys_params
  refine ⟨_, rfl, ?_, fun key v => ?_⟩
  · have hkeys : (delivery.params ++ [t.member]).map Prod.fst
        = "account" :: (delivery.content.params.map Prod.fst ++ [t.member.1]) := by simp [params]
    have hmember : t.member.1 ∉ delivery.content.params.map Prod.fst ∧ "account" ≠ t.member.1 := by
      cases t with
      | group id => exact ⟨hfree "group-id" (by simp), by simp [Target.member]⟩
      | persons recipients => exact ⟨hfree "recipient" (by simp), by simp [Target.member]⟩
    rw [hkeys, List.nodup_cons, List.mem_append, List.mem_singleton, not_or, List.nodup_append]
    refine ⟨⟨hfree "account" (by simp), hmember.2⟩, hnodup, List.pairwise_singleton _ _, ?_⟩
    intro key hkey other hother hsame
    exact hmember.1 (List.mem_singleton.1 hother ▸ hsame ▸ hkey)
  · rw [says_iff, ← Outgoing.mem_params_iff, params, List.cons_append, List.mem_cons,
      List.mem_append, List.mem_singleton]

end Delivery

namespace Gateway

/-! ## Names of groups -/

/-- Looking names up adds the groups that are not chosen already, each once, in the order in which
they are first named. -/
theorem resolveNames_fst (account : String) (groups : GroupDirectory)
    (chosen names : List String) :
    (resolveNames account groups chosen names).1
      = chosen ++ (((names.filterMap groups.resolve).map Group.id).removeAll chosen).eraseDups := by
  induction names generalizing chosen with
  | nil => simp [resolveNames]
  | cons name names ih =>
      cases hname : groups.resolve name with
      | none => simp [resolveNames, hname, ih]
      | some group =>
          by_cases hchosen : group.id ∈ chosen
          · simp [resolveNames, hname, ih, hchosen, List.cons_removeAll]
          · -- The ids that are chosen already and the new one are removed together.
            have hrest (ids : List String) :
                ids.removeAll (chosen ++ [group.id])
                  = (ids.removeAll chosen).filter fun id => !(id == group.id) := by
              rw [List.removeAll, List.removeAll, List.filter_filter]
              refine List.filter_congr fun id _ => ?_
              grind
            simp [resolveNames, hname, ih, hchosen, List.cons_removeAll, List.eraseDups_cons, hrest]

theorem groupIds_fst (account : String) (groups : GroupDirectory) (names : List String) :
    (groupIds account groups names).1
      = ((names.filterMap groups.resolve).map Group.id).eraseDups := by
  unfold groupIds
  split
  · rename_i hempty
    have hnone (name : String) : groups.resolve name = none := by
      have hitems : groups.items = [] := List.isEmpty_iff.1 hempty
      cases hposition : groups.position? name <;>
        simp [GroupDirectory.resolve, Directory.get?, hposition, hitems]
    have hnames : names.filterMap groups.resolve = [] :=
      List.filterMap_eq_nil_iff.2 fun name _ => hnone name
    simp [hnames]
  · simp [resolveNames_fst]

/-! ## Calls -/

/-- The calls of a method. -/
def callsOf (method : String) (xs : List Exchange) : List Exchange :=
  xs.filter fun x => x.request.method = method

/-- Working out the calls of a delivery yields one for each target, and asks for nothing but
groups. -/
theorem calls_targets (d : Daemon δ) (delivery : Delivery) (g : Gateway (δ × List Exchange)) :
    let worked := g.calls d.transcribed delivery
    worked.1 = (delivery.targets (g.cachedGroups d.transcribed delivery.account).1).map
        (·.map delivery.paramsTo)
      ∧ worked.2.2.link.endpoint = g.link.endpoint
      ∧ ∃ xs, worked.2.2.transcript = g.transcript ++ xs
        ∧ ∀ x ∈ xs, x.request.method = listGroups := by
  obtain ⟨hendpoint, xs, htranscript, hmethod⟩ := transcript_cachedGroups d delivery.account g
  rcases hloaded : g.cachedGroups d.transcribed delivery.account with ⟨directory, notices, g'⟩
  rw [hloaded] at hendpoint htranscript
  -- The directory is asked for only if groups are named.
  cases hgroups : delivery.groups with
  | nil =>
      have htargets : delivery.targets directory
          = if delivery.recipients ≠ [] then .ok [.persons delivery.recipients.eraseDups]
            else .error .noRecipients := by
        simp [Delivery.targets, hgroups]
      by_cases hrecipients : delivery.recipients = []
      · have hcalls : g.calls d.transcribed delivery = (.error .noRecipients, [], g) := by
          simp [calls, hgroups, hrecipients]
        rw [hcalls, htargets, if_neg (not_not_intro hrecipients)]
        exact ⟨rfl, rfl, [], (List.append_nil _).symm, List.forall_mem_nil _⟩
      · have hcalls : g.calls d.transcribed delivery
            = (.ok [delivery.personParams delivery.recipients.eraseDups], [], g) := by
          simp [calls, hgroups, hrecipients]
        rw [hcalls, htargets, if_pos hrecipients]
        exact ⟨rfl, rfl, [], (List.append_nil _).symm, List.forall_mem_nil _⟩
  | cons name names =>
      have hnamed : delivery.groups ≠ [] := by simp [hgroups]
      cases directory with
      | error e =>
          have hcalls : g.calls d.transcribed delivery = (.error e, notices, g') := by
            simp [calls, hgroups, hloaded]
          rw [hcalls, Delivery.targets, if_pos hnamed]
          exact ⟨rfl, hendpoint, xs, htranscript, hmethod⟩
      | ok groups =>
          have hcalls : g.calls d.transcribed delivery
              = (.ok ((groupIds delivery.account groups delivery.groups).1.map
                  delivery.groupParams),
                notices ++ noted (groupIds delivery.account groups delivery.groups).2, g') := by
            simp [calls, hgroups, hloaded]
          have hparams (ids : List String) :
              ids.map delivery.groupParams = (ids.map Target.group).map delivery.paramsTo := by
            rw [List.map_map]
            rfl
          rw [hcalls, groupIds_fst, hparams, Delivery.targets, if_pos hnamed]
          exact ⟨rfl, hendpoint, xs, htranscript, hmethod⟩

/-- **Sending.** A delivery of text is sent by calls of `send`, a reaction by calls of
`sendReaction`, a deletion by calls of `remoteDelete`. The new calls of that method go to the
address of calls, one for each target of the delivery, in order; each says on whose behalf and to
whom it goes and what is sent, and nothing else. They stop at the first one that fails, and that is
the result; if none does, the result lists what each of them gave. If the groups that a delivery
names cannot be looked up, or it names nobody, no call is made. -/
theorem send_calls (d : Daemon δ) (delivery : Delivery) (g : Gateway (δ × List Exchange))
    (henabled : g.enabled = true) :
    let directory := (g.groupsOf d.transcribed delivery.account).1
    let sent := g.send d.transcribed delivery
    ∃ method new, delivery.content.SentBy method
      ∧ sent.2.2.transcript = g.transcript ++ new ∧
      let calls := callsOf method new
      (∀ x ∈ calls, x.address = g.link.endpoint.rpc)
      ∧ match delivery.targets directory with
        | .ok targets => ∃ plan, List.Forall₂ delivery.Carries targets plan
          ∧ CarriedOut plan calls sent.1
        | .error e => calls = [] ∧ sent.1 = .error e := by
  intro directory sent
  have hdirectory : directory = (g.cachedGroups d.transcribed delivery.account).1 := by
    simp [directory, groupsOf, guarded, henabled]
  obtain ⟨hplan, hendpoint, asked, htranscript, hasked⟩ := calls_targets d delivery g
  rcases hworked : g.calls d.transcribed delivery with ⟨plan, notices, g'⟩
  rw [hworked, ← hdirectory] at hplan
  rw [hworked] at hendpoint htranscript
  have hmethod : listGroups ≠ delivery.content.method := by
    cases delivery.content <;> simp [listGroups, Outgoing.method]
  -- Asking for the directory is no call of the delivery's own method.
  have hnone : callsOf delivery.content.method asked = [] := by
    refine List.filter_eq_nil_iff.2 fun x hx => ?_
    simpa [hasked x hx] using hmethod
  refine ⟨delivery.content.method, ?_⟩
  cases htargets : delivery.targets directory with
  | error e =>
      rw [htargets] at hplan
      obtain rfl : plan = .error e := hplan
      have hsent : sent = (.error e, notices, g') := by
        simp [sent, send, guarded, henabled, hworked]
      rw [hsent]
      refine ⟨asked, delivery.content.sentBy_method, htranscript, ?_, hnone, rfl⟩
      rw [hnone]
      exact List.forall_mem_nil _
  | ok targets =>
      rw [htargets] at hplan
      obtain rfl : plan = .ok (targets.map delivery.paramsTo) := hplan
      obtain ⟨xs, hxs, hcarried, hcalls⟩ :=
        callAll_carriedOut d delivery.content.method (targets.map delivery.paramsTo) g'
      have hsent : sent = ((callAll d.transcribed delivery.content.method
            (targets.map delivery.paramsTo) g').1,
          notices ++ (callAll d.transcribed delivery.content.method
            (targets.map delivery.paramsTo) g').2.1,
          (callAll d.transcribed delivery.content.method
            (targets.map delivery.paramsTo) g').2.2) := by
        simp [sent, send, guarded, henabled, hworked]
      have hall : callsOf delivery.content.method (asked ++ xs) = xs := by
        have hxs' : callsOf delivery.content.method xs = xs :=
          List.filter_eq_self.2 fun x hx => by simpa using (hcalls x hx).2
        rw [callsOf, List.filter_append, ← callsOf, ← callsOf, hnone, hxs', List.nil_append]
      have hcarries : List.Forall₂ delivery.Carries targets (targets.map delivery.paramsTo) :=
        List.forall₂_map_right_iff.2 (List.forall₂_same.2 fun t _ => delivery.carries_paramsTo t)
      rw [hsent]
      refine ⟨asked ++ xs, delivery.content.sentBy_method, ?_, ?_, ?_⟩
      · rw [hxs, htranscript, List.append_assoc]
      · rw [hall]
        exact fun x hx => (hcalls x hx).1.trans (by rw [hendpoint])
      · rw [hall]
        exact ⟨_, hcarries, hcarried⟩

/-- Two groups, one of them with a title. -/
def twoGroups : GroupDirectory :=
  .ofList [⟨"g1", some "Team", none, -1, ⟨none, none, none⟩, []⟩,
    ⟨"g2", none, none, -1, ⟨none, none, none⟩, []⟩]

/-- An enabled gateway that knows two groups of the account `me`. -/
def knowingTwoGroups : Gateway (Unit × List Exchange) where
  settings := {}
  link := { endpoint := ⟨address [], address ["api"], address ["events"]⟩, daemon := ((), []) }
  groups := { ttl := 1000, entries := [("me", ⟨twoGroups, 0⟩)] }
  identities := { ttl := 1000 }
  registry := .withCapacity 1
  enabled := true
where
  address (path : List String) : Url :=
    ⟨"http", [], [], .domain "localhost".toList, none, path.map String.toList, none, none⟩

/-- A deletion that names one group twice and another one that no daemon knows. -/
def deletion : Delivery := ⟨"me", .deletion 5, ["+1"], ["team", "g2", "g3", "g1"]⟩

/-- Nobody answers, so only the first of two calls is made. -/
theorem send_calls_to_two_groups :
    let sent := knowingTwoGroups.send Daemon.unreachable.transcribed deletion
    knowingTwoGroups.enabled = true
      ∧ deletion.targets (.ok twoGroups) = .ok [.group "g1", .group "g2"]
      ∧ (∃ method new, deletion.content.SentBy method
        ∧ sent.2.2.transcript = knowingTwoGroups.transcript ++ new
        ∧ ∃ plan, List.Forall₂ deletion.Carries [.group "g1", .group "g2"] plan
          ∧ CarriedOut plan (callsOf method new) sent.1)
      ∧ sent.2.2.transcript.map (fun x => (x.request.method, x.request.params))
        = [("remoteDelete", .obj [("account", .str "me"), ("target-timestamp", .int 5),
          ("group-id", .str "g1")])] := by
  intro sent
  have htargets : deletion.targets (.ok twoGroups) = .ok [.group "g1", .group "g2"] := rfl
  obtain ⟨method, new, hmethod, hnew, -, plan, hcarries, hcarried⟩ :=
    send_calls Daemon.unreachable deletion knowingTwoGroups rfl
  exact ⟨rfl, htargets, ⟨method, new, hmethod, hnew, plan, hcarries, hcarried⟩, rfl⟩

end Gateway
end Messenger
