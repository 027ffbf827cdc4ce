import Mathlib.Data.List.Forall2
import SignedPayments.Copies

/-!
# SignedPayments.Proofs.Copies

Copies of one thing do what the thing alone would do. However copies are made and asked,
all of them stay copies of that thing with one place (`Copies.Shared`), so the turns of a
run are a chain: each finds what the one before it has left (`Copies.Shared.run`).

Things that answer alike can be copied and asked in the same way, and their copies go on to
answer alike (`Copies.Related`).
-/

namespace SignedPayments

namespace Copies

variable {α β γ σ : Type} {serve : α → σ → β → γ × σ} {c : Copies α σ} {item : α} {state : σ}

/-- All copies are copies of one thing, and share its place. -/
structure Shared (c : Copies α σ) (item : α) (state : σ) : Prop where
  copies : ∀ copy ∈ c.copies, copy = ⟨item, 0⟩
  places : c.places = [state]

theorem shared_single (item : α) (state : σ) : Shared (single item state) item state := by
  constructor
  · intro copy hcopy
    exact List.mem_singleton.mp hcopy
  · rfl

/-- Every copy is found, with what all of them keep. -/
theorem Shared.find?_eq (h : Shared c item state) {number : Nat}
    (hnumber : number < c.copies.length) : c.find? number = some (⟨item, 0⟩, state) := by
  have hcopy : c.copies[number]? = some ⟨item, 0⟩ := by
    rw [List.getElem?_eq_getElem hnumber, h.copies _ (List.getElem_mem hnumber)]
  simp [find?, hcopy, h.places]

/-! ### Turns -/

/-- The turn that a thing takes. -/
def turn (serve : α → σ → β → γ × σ) (item : α) (state : σ) (request : β) : Turn β σ γ :=
  ⟨request, state, (serve item state request).1, (serve item state request).2⟩

/-- Turns that one thing takes, from one state to another. -/
inductive Chain (serve : α → σ → β → γ × σ) (item : α) : σ → List (Turn β σ γ) → σ → Prop
  | nil (state : σ) : Chain serve item state [] state
  | cons {state last : σ} {turns : List (Turn β σ γ)} (request : β) :
      Chain serve item (turn serve item state request).after turns last →
      Chain serve item state (turn serve item state request :: turns) last

section

variable {last : σ} {turns : List (Turn β σ γ)} {t u : Turn β σ γ} {n : Nat}

/-- Each turn of a chain is the one that the thing takes in the state that it finds. -/
theorem Chain.eq_turn (h : Chain serve item state turns last) (ht : turns[n]? = some t) :
    t = turn serve item t.before t.request := by
  induction h generalizing n with
  | nil => simp at ht
  | cons request hrest ih =>
      cases n with
      | zero =>
          obtain rfl : turn serve item _ request = t := by simpa using ht
          rfl
      | succ n => exact ih (by simpa using ht)

/-- The first turn finds the state before the chain. -/
theorem Chain.before_zero (h : Chain serve item state turns last) (ht : turns[0]? = some t) :
    t.before = state := by
  cases h with
  | nil => simp at ht
  | cons request hrest =>
      obtain rfl : turn serve item state request = t := by simpa using ht
      rfl

/-- Every other turn finds what the one before it has left. -/
theorem Chain.before_succ (h : Chain serve item state turns last) (ht : turns[n]? = some t)
    (hu : turns[n + 1]? = some u) : u.before = t.after := by
  induction h generalizing n with
  | nil => simp at ht
  | cons request hrest ih =>
      cases n with
      | zero =>
          obtain rfl : turn serve item _ request = t := by simpa using ht
          exact hrest.before_zero (by simpa using hu)
      | succ n => exact ih (by simpa using ht) (by simpa using hu)

/-- What every turn preserves holds at the end. -/
theorem Chain.preserves {P : σ → Prop} (h : Chain serve item state turns last)
    (hturn : ∀ state request, P state → P (turn serve item state request).after)
    (hstate : P state) : P last := by
  induction h with
  | nil => exact hstate
  | cons request hrest ih => exact ih (hturn _ request hstate)

end

/-- A copy that is asked takes a turn, and leaves what all copies find. -/
theorem Shared.act_ask (h : Shared c item state) (serve : α → σ → β → γ × σ) {number : Nat}
    (hnumber : number < c.copies.length) (request : β) :
    (c.act serve (.ask number request)).1 = some (turn serve item state request) ∧
      Shared (c.act serve (.ask number request)).2 item (turn serve item state request).after := by
  simp only [act, h.find?_eq hnumber]
  refine ⟨rfl, h.copies, ?_⟩
  rw [h.places]
  rfl

/-- Whatever is done, either nothing is asked and nothing that is kept changes, or a turn is
taken. -/
theorem Shared.act_cases (h : Shared c item state) (serve : α → σ → β → γ × σ)
    (action : Action β) :
    ((c.act serve action).1 = none ∧ Shared (c.act serve action).2 item state) ∨
    (∃ request, (c.act serve action).1 = some (turn serve item state request) ∧
      Shared (c.act serve action).2 item (turn serve item state request).after) := by
  cases action with
  | copy number =>
      refine .inl ?_
      cases hcopy : c.copies[number]? with
      | none =>
          simp only [act, hcopy]
          exact ⟨trivial, h⟩
      | some copy =>
          simp only [act, hcopy]
          refine ⟨trivial, fun other hother => ?_, h.places⟩
          rcases List.mem_append.mp hother with hother | hother
          · exact h.copies other hother
          · rw [List.mem_singleton.mp hother]
            exact h.copies copy (List.mem_of_getElem? hcopy)
  | ask number request =>
      by_cases hnumber : number < c.copies.length
      · exact .inr ⟨request, h.act_ask serve hnumber request⟩
      · refine .inl ?_
        have hnone : c.find? number = none := by
          simp [find?, List.getElem?_eq_none (Nat.not_lt.mp hnumber)]
        simp only [act, hnone]
        exact ⟨trivial, h⟩

theorem run_append (c : Copies α σ) (first rest : List (Action β)) :
    c.run serve (first ++ rest) =
      ((c.run serve first).1 ++ ((c.run serve first).2.run serve rest).1,
        ((c.run serve first).2.run serve rest).2) := by
  induction first generalizing c with
  | nil => rfl
  | cons action first ih => simp [run, ih]

/-- One more question to any copy adds one turn to a run. -/
theorem Shared.run_ask {actions : List (Action β)}
    (h : Shared (c.run serve actions).2 item state) {number : Nat}
    (hnumber : number < (c.run serve actions).2.copies.length) (request : β) :
    (c.run serve (actions ++ [.ask number request])).1 =
      (c.run serve actions).1 ++ [turn serve item state request] := by
  have hasked := (h.act_ask serve hnumber request).1
  rw [run_append]
  simp [run, hasked]

/-- The turns of a run are a chain, whichever copies take them. -/
theorem Shared.run (h : Shared c item state) (serve : α → σ → β → γ × σ)
    (actions : List (Action β)) :
    ∃ last, Chain serve item state (c.run serve actions).1 last ∧
      Shared (c.run serve actions).2 item last := by
  induction actions generalizing c state with
  | nil => exact ⟨state, .nil state, h⟩
  | cons action rest ih =>
      unfold Copies.run
      dsimp only
      rcases h.act_cases serve action with ⟨hnone, hshared⟩ | ⟨request, hsome, hshared⟩
      · obtain ⟨last, hchain, hlast⟩ := ih hshared
        rw [hnone]
        exact ⟨last, hchain, hlast⟩
      · obtain ⟨last, hchain, hlast⟩ := ih hshared
        rw [hsome]
        exact ⟨last, .cons request hchain, hlast⟩

/-! ### What is asked and what is answered -/

/-- What is asked of copies that are there, with `count` of them at first. -/
def asked (count : Nat) : List (Action β) → List β
  | [] => []
  | .copy number :: rest => asked (if number < count then count + 1 else count) rest
  | .ask number request :: rest =>
    if number < count then request :: asked count rest else asked count rest

/-- What one thing that is done asks, and how many copies there are then. -/
theorem Shared.act_request (h : Shared c item state) (serve : α → σ → β → γ × σ)
    (action : Action β) (rest : List (Action β)) :
    ((c.act serve action).1.map (·.request)).toList ++
        asked (c.act serve action).2.copies.length rest =
      asked c.copies.length (action :: rest) := by
  cases action with
  | copy number =>
      by_cases hnumber : number < c.copies.length
      · simp [act, asked, hnumber]
      · simp [act, asked, hnumber]
  | ask number request =>
      by_cases hnumber : number < c.copies.length
      · simp [act, asked, hnumber, h.find?_eq hnumber]
      · simp [act, asked, find?, hnumber]

/-- Every copy that is there answers whatever it is asked, in one turn. -/
theorem Shared.run_requests (h : Shared c item state) (serve : α → σ → β → γ × σ)
    (actions : List (Action β)) :
    (c.run serve actions).1.map (·.request) = asked c.copies.length actions := by
  induction actions generalizing c state with
  | nil => rfl
  | cons action rest ih =>
      have hrest : ((c.act serve action).2.run serve rest).1.map (·.request) =
          asked (c.act serve action).2.copies.length rest := by
        rcases h.act_cases serve action with ⟨-, hshared⟩ | ⟨request, -, hshared⟩
        · exact ih hshared
        · exact ih hshared
      rw [← h.act_request serve action rest, ← hrest, Copies.run, List.map_append]
      cases (c.act serve action).1 with
      | none => rfl
      | some t => rfl

section

variable {P : σ → Prop} {Q : β → Prop} {R : β → γ → Prop} {last : σ}
  {turns : List (Turn β σ γ)}

/-- What holds at first and is preserved by every turn holds before each of them. -/
theorem Chain.holds_before (h : Chain serve item state turns last) (hstate : P state)
    (hturn : ∀ t ∈ turns, P t.before → P t.after) : ∀ t ∈ turns, P t.before := by
  induction h with
  | nil => simp
  | cons request hrest ih =>
      rw [List.forall_mem_cons] at hturn ⊢
      exact ⟨hstate, ih (hturn.1 hstate) hturn.2⟩

/-- Answers have a property if they do in all states that are kept so by the requests. -/
theorem Shared.run_answers (h : Shared c item state) (serve : α → σ → β → γ × σ) (hstate : P state)
    (hserve : ∀ state request, P state → Q request →
      R request (serve item state request).1 ∧ P (serve item state request).2)
    {actions : List (Action β)} (hasked : ∀ request ∈ asked c.copies.length actions, Q request) :
    ∀ t ∈ (c.run serve actions).1, R t.request t.answer := by
  obtain ⟨last, hchain, -⟩ := h.run serve actions
  have hrequest : ∀ t ∈ (c.run serve actions).1, Q t.request := by
    intro t ht
    refine hasked _ ?_
    rw [← h.run_requests serve actions]
    exact List.mem_map_of_mem ht
  have hbefore : ∀ t ∈ (c.run serve actions).1, P t.before := by
    refine hchain.holds_before hstate fun t ht ht' => ?_
    obtain ⟨n, hn⟩ := List.getElem?_of_mem ht
    rw [hchain.eq_turn hn]
    exact (hserve _ _ ht' (hrequest t ht)).2
  intro t ht
  obtain ⟨n, hn⟩ := List.getElem?_of_mem ht
  rw [hchain.eq_turn hn]
  exact (hserve _ _ (hbefore t ht) (hrequest t ht)).1

end

/-! ### Copies of different things -/

section

variable {α' β' γ' σ' : Type} {serve' : α' → σ' → β' → γ' × σ'} {c' : Copies α' σ'}
  {R : α → α' → Prop} {S : σ → σ' → Prop} {Q : γ → γ' → Prop}

/-- Copies that were made in the same way, of things that are related, and keep what is
related. -/
structure Related (R : α → α' → Prop) (S : σ → σ' → Prop) (c : Copies α σ) (c' : Copies α' σ') :
    Prop where
  copies : List.Forall₂ (fun copy copy' => R copy.item copy'.item ∧ copy.place = copy'.place)
    c.copies c'.copies
  places : List.Forall₂ S c.places c'.places

theorem rel_getElem? {l : List α} {l' : List α'} (h : List.Forall₂ R l l') (n : Nat) :
    Option.Rel R l[n]? l'[n]? := by
  induction h generalizing n with
  | nil => exact .none
  | cons hhead htail ih =>
      cases n with
      | zero => exact .some hhead
      | succ n => exact ih n

theorem forall₂_set {l : List α} {l' : List α'} (h : List.Forall₂ R l l') {a : α} {a' : α'}
    (ha : R a a') (n : Nat) : List.Forall₂ R (l.set n a) (l'.set n a') := by
  induction h generalizing n with
  | nil => exact .nil
  | cons hhead htail ih =>
      cases n with
      | zero => exact .cons ha htail
      | succ n => exact .cons hhead (ih n)

/-- A new thing of its own is added to both. -/
theorem Related.add (h : Related R S c c') {item : α} {item' : α'} {state : σ} {state' : σ'}
    (hitem : R item item') (hstate : S state state') :
    Related R S ⟨c.copies ++ [⟨item, c.places.length⟩], c.places ++ [state]⟩
      ⟨c'.copies ++ [⟨item', c'.places.length⟩], c'.places ++ [state']⟩ where
  copies := List.rel_append h.copies (.cons ⟨hitem, h.places.length_eq⟩ .nil)
  places := List.rel_append h.places (.cons hstate .nil)

/-- A copy is made of both. -/
theorem Related.act_copy (h : Related R S c c') (serve : α → σ → β → γ × σ)
    (serve' : α' → σ' → β' → γ' × σ') (number : Nat) :
    Related R S (c.act serve (.copy number)).2 (c'.act serve' (.copy number)).2 := by
  have hcopy := rel_getElem? h.copies number
  unfold act
  dsimp only
  generalize c.copies[number]? = copy?, c'.copies[number]? = copy?' at hcopy
  cases hcopy with
  | none => exact h
  | some hcopy => exact ⟨List.rel_append h.copies (.cons hcopy .nil), h.places⟩

/-- Both are asked. If the answers of related things are related, these are, and what is kept
then. -/
theorem Related.act_ask (h : Related R S c c') {request : β} {request' : β'}
    (hserve : ∀ item item' state state', R item item' → S state state' →
      Q (serve item state request).1 (serve' item' state' request').1 ∧
        S (serve item state request).2 (serve' item' state' request').2) (number : Nat) :
    Option.Rel (fun t t' => Q t.answer t'.answer) (c.act serve (.ask number request)).1
        (c'.act serve' (.ask number request')).1 ∧
      Related R S (c.act serve (.ask number request)).2
        (c'.act serve' (.ask number request')).2 := by
  have hcopy := rel_getElem? h.copies number
  unfold act find?
  dsimp only
  generalize c.copies[number]? = copy?, c'.copies[number]? = copy?' at hcopy
  cases hcopy with
  | none => exact ⟨.none, h⟩
  | @some copy copy' hcopy =>
      obtain ⟨item, place⟩ := copy
      obtain ⟨item', place'⟩ := copy'
      obtain ⟨hitem, hplace⟩ := hcopy
      dsimp only at hitem hplace
      subst hplace
      have hstate := rel_getElem? h.places place
      dsimp only [Option.bind_eq_bind, Option.bind_some]
      generalize c.places[place]? = state?, c'.places[place]? = state?' at hstate
      cases hstate with
      | none => exact ⟨.none, h⟩
      | some hstate =>
          obtain ⟨hanswer, hafter⟩ := hserve _ _ _ _ hitem hstate
          exact ⟨.some hanswer, h.copies, forall₂_set h.places hafter place⟩

end

end Copies

end SignedPayments
