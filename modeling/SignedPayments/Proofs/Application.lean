import SignedPayments.Application
import SignedPayments.Proofs.Client.Alike
import SignedPayments.Proofs.Copies

/-!
# SignedPayments.Proofs.Application

A key is seen only in its redacted form. Two programs that do the same, apart from keys that
are alike, are seen alike: they give back the same, tell the same, and show the same after
every step (`Application.run_seen_alike`).

What a program has stays alike in two such runs (`Application.Alike`), and each step on it
is seen alike (`Application.step_alike`).
-/

namespace SignedPayments

open Http Signing

/-- Contexts that are shown alike, with environments that are alike. -/
structure Context.Alike (context context' : Context) : Prop where
  shown : context.describe = context'.describe
  environment : context.environment.Alike context'.environment

namespace Application

/-- Steps that are the same, apart from keys that are alike. -/
inductive Step.Alike : Step → Step → Prop
  | configure {config config' : Config} (h : config.Alike config') :
      Step.Alike (.configure config) (.configure config')
  | complete : Step.Alike .complete .complete
  | make : Step.Alike .make .make
  | makeWith {p q : Provider} (h : p.Alike q) : Step.Alike (.makeWith p) (.makeWith q)
  | copy (number : Nat) : Step.Alike (.copy number) (.copy number)
  | call (number : Nat) (now : Instant) (call : Call) (reply : Reply) :
      Step.Alike (.call number now call reply) (.call number now call reply)

/-- What a program has, apart from keys that are alike. -/
structure Alike (app app' : Application) : Prop where
  config : app.config.Alike app'.config
  clients : Copies.Related Client.Alike Vault.Alike app.clients app'.clients

theorem alike_empty : Alike {} {} := ⟨⟨.none, rfl, rfl⟩, ⟨.nil, .nil⟩⟩

variable {app app' : Application} {context context' : Context}

/-- Both keep a client, or neither does and the error is the same. -/
theorem keep_alike (h : app.Alike app') {made made' : Except Error Client}
    (hmade : OutcomeRel Client.Alike made made') :
    (app.keep made).1 = (app'.keep made').1 ∧ (app.keep made).2.1 = (app'.keep made').2.1 ∧
      (app.keep made).2.2.Alike (app'.keep made').2.2 := by
  cases hmade with
  | error e => exact ⟨rfl, rfl, h⟩
  | ok hclient => exact ⟨rfl, rfl, h.config, h.clients.add hclient ⟨.none, rfl⟩⟩

/-- Answers that are seen alike. -/
def AnswersAlike (done done' : Client.Exchange) : Prop :=
  done.result = done'.result ∧ done.log = done'.log

/-- Clients that are alike answer a call alike, if it has the same reply. -/
theorem serve_alike (h : context.Alike context') (now : Instant) (call : Call) (reply : Reply)
    (client client' : Client) (vault vault' : Vault) (hclient : client.Alike client')
    (hvault : vault.Alike vault') :
    AnswersAlike (client.serve vault (occasion context now call reply)).1
        (client'.serve vault' (occasion context' now call reply)).1 ∧
      (client.serve vault (occasion context now call reply)).2.Alike
        (client'.serve vault' (occasion context' now call reply)).2 := by
  obtain ⟨hresult, hlog, hleft⟩ := Client.execute_alike (occasion context now call reply).context
    (occasion context' now call reply).context hclient h.environment (fun _ _ => rfl) hvault now call
  exact ⟨⟨hresult, hlog⟩, hleft⟩

/-- Steps that are alike give back the same and tell the same, and what the programs have
then is alike. -/
theorem step_alike (h : app.Alike app') (hcontext : context.Alike context') {step step' : Step}
    (hstep : step.Alike step') :
    (app.step context step).1 = (app'.step context' step').1 ∧
      (app.step context step).2.1 = (app'.step context' step').2.1 ∧
      (app.step context step).2.2.Alike (app'.step context' step').2.2 := by
  cases hstep with
  | configure hconfig => exact ⟨rfl, rfl, hconfig, h.clients⟩
  | complete =>
      obtain ⟨hconfig, hlog⟩ := Config.fromEnvironment_alike h.config hcontext.environment
      exact ⟨rfl, hlog, hconfig, h.clients⟩
  | make =>
      dsimp only [step]
      exact keep_alike h (Client.ofConfig_alike h.config)
  | makeWith hprovider =>
      dsimp only [step]
      exact keep_alike h (Client.withProvider_alike h.config hprovider)
  | copy number => exact ⟨rfl, rfl, h.config, h.clients.act_copy _ _ number⟩
  | call number now call reply =>
      obtain ⟨hturn, hleft⟩ := h.clients.act_ask (Q := AnswersAlike)
        (serve_alike hcontext now call reply) number
      unfold step
      dsimp only
      generalize app.clients.act Client.serve (.ask number (occasion context now call reply)) =
          asked, app'.clients.act Client.serve (.ask number (occasion context' now call reply)) =
          asked' at hturn hleft
      obtain ⟨turn?, clients⟩ := asked
      obtain ⟨turn?', clients'⟩ := asked'
      dsimp only at hturn hleft
      cases hturn with
      | none => exact ⟨rfl, rfl, h.config, hleft⟩
      | some hanswer => exact ⟨congrArg Outcome.answered hanswer.1, hanswer.2, h.config, hleft⟩

theorem clientShown_alike (h : context.Alike context') {client client' : Client}
    {vault vault' : Vault} (hclient : client.Alike client') (hvault : vault.Alike vault') :
    clientShown context client vault = clientShown context' client' vault' := by
  unfold clientShown
  rw [hclient.provider.name, Credential.describe?_eq hvault.credential,
    Client.describe_alike hclient h.shown hvault]

/-- Programs that are alike show the same. -/
theorem shown_alike (h : app.Alike app') (hcontext : context.Alike context') :
    app.shown context = app'.shown context' := by
  have hclients : List.Forall₂ (· = ·)
      (app.clients.copies.flatMap fun copy =>
        app.clients.places[copy.place]?.elim [] (clientShown context copy.item))
      (app'.clients.copies.flatMap fun copy =>
        app'.clients.places[copy.place]?.elim [] (clientShown context' copy.item)) := by
    refine List.rel_flatMap h.clients.copies ?_
    intro copy copy' hcopy
    obtain ⟨hclient, hplace⟩ := hcopy
    have hvault := Copies.rel_getElem? h.clients.places copy'.place
    rw [List.forall₂_eq_eq_eq]
    dsimp only
    rw [hplace]
    generalize app.clients.places[copy'.place]? = vault?, app'.clients.places[copy'.place]? = vault?'
      at hvault
    cases hvault with
    | none => rfl
    | some hvault => exact clientShown_alike hcontext hclient hvault
  rw [List.forall₂_eq_eq_eq] at hclients
  unfold shown
  rw [h.config.describe_eq, hclients]

/-- Programs that are alike are seen alike while they take steps that are alike. -/
theorem run_alike (h : app.Alike app') {steps steps' : List (Context × Step)}
    (hsteps : List.Forall₂ (fun s s' => s.1.Alike s'.1 ∧ s.2.Alike s'.2) steps steps') :
    app.run steps = app'.run steps' := by
  induction hsteps generalizing app app' with
  | nil => rfl
  | cons hstep hrest ih =>
      obtain ⟨hcontext, hstep⟩ := hstep
      obtain ⟨houtcome, hlog, hleft⟩ := step_alike h hcontext hstep
      unfold run
      dsimp only
      rw [houtcome, hlog, shown_alike hleft hcontext, ih hleft]

/-- Two programs that begin with nothing, and do the same with keys that are alike, are seen
alike: they give back the same, tell the same, and show the same after every step. -/
theorem run_seen_alike {steps steps' : List (Context × Step)}
    (hsteps : List.Forall₂ (fun s s' => s.1.Alike s'.1 ∧ s.2.Alike s'.2) steps steps') :
    run {} steps = run {} steps' :=
  run_alike alike_empty hsteps

/-- So with two keys of different lengths, which are given once as the key of a
configuration, once to a provider and once as a variable; and so with two short keys, which have
no end in common. -/
theorem run_seen_alike_ends :
    let now : Instant := ⟨0, 0, by decide, by decide, by decide⟩
    let context (key : String) : Context :=
      ⟨.missing, ⟨"OsEnv", fun name => if name = VariableName.apiKey then some key else none⟩⟩
    let steps (key : String) : List (Context × Step) :=
      [.configure { apiKey := some key, baseUrl? := some "https://h" }, .make, .copy 0,
        .call 1 now ⟨.get, "/a", none⟩ .silence, .makeWith (.fixed key),
        .call 2 now ⟨.post, "/a", some (.json .null)⟩ (.answer ⟨200⟩ [] none),
        .configure {}, .complete, .makeWith .environment,
        .call 3 now ⟨.get, "a", none⟩ .silence].map (context key, ·)
    run {} (steps "pi_live_0123456789") = run {} (steps "pi_test_0a789") ∧
      run {} (steps "key") = run {} (steps "another") := by
  intro now context steps
  have hsent (key : String) (h : (Utf8.ofString ("Bearer " ++ key)).all HeaderValue.isValueByte = true) :
      CanBeSent key := ⟨_, HeaderValue.ofText_eq_ok_iff.mpr ⟨h, rfl⟩⟩
  have hlong : KeyAlike "pi_live_0123456789" "pi_test_0a789" :=
    ⟨by decide, iff_of_true (hsent _ (by decide)) (hsent _ (by decide))⟩
  have hshort : KeyAlike "key" "another" :=
    ⟨by decide, iff_of_true (hsent _ (by decide)) (hsent _ (by decide))⟩
  have hsteps {a b : String} (hkey : KeyAlike a b) :
      List.Forall₂ (fun s s' => s.1.Alike s'.1 ∧ s.2.Alike s'.2) (steps a) (steps b) := by
    have hcontext : (context a).Alike (context b) := by
      refine ⟨rfl, .some hkey, fun name hname => ?_⟩
      simp [context, hname]
    exact
      .cons ⟨hcontext, .configure ⟨.some hkey, rfl, rfl⟩⟩ <| .cons ⟨hcontext, .make⟩ <|
      .cons ⟨hcontext, .copy 0⟩ <| .cons ⟨hcontext, .call _ _ _ _⟩ <|
      .cons ⟨hcontext, .makeWith (Provider.fixed_alike hkey)⟩ <| .cons ⟨hcontext, .call _ _ _ _⟩ <|
      .cons ⟨hcontext, .configure ⟨.none, rfl, rfl⟩⟩ <| .cons ⟨hcontext, .complete⟩ <|
      .cons ⟨hcontext, .makeWith Provider.environment_alike⟩ <|
      .cons ⟨hcontext, .call _ _ _ _⟩ .nil
  exact ⟨run_seen_alike (hsteps hlong), run_seen_alike (hsteps hshort)⟩

end Application

end SignedPayments
