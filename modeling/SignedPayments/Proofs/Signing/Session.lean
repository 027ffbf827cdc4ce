import SignedPayments.Proofs.Signing.Seal
import SignedPayments.Signing.Session

/-!
# SignedPayments.Proofs.Signing.Session

Who has the headers while a draft is edited: the draft while one is under way, else the head.
They are those that the head had at first, with each header that was inserted since in place
of those of its name.

`Session.Holds` is the invariant. While a draft is under way, the uri of the head is the root,
which says nowhere where to go. So no second draft can be started, and none is lost.
-/

namespace SignedPayments

open Http

/-! ### Inserting -/

namespace Http.Headers

/-- Inserts headers, one after the other. -/
def insertAll (headers inserted : Headers) : Headers :=
  inserted.foldl (fun headers header => headers.insert header.1 header.2) headers

theorem insertAll_append (headers first rest : Headers) :
    headers.insertAll (first ++ rest) = (headers.insertAll first).insertAll rest :=
  List.foldl_append

/-- Of the headers that were inserted under a name, the last one is left, in place of those
that were there before. -/
theorem values_insertAll (headers inserted : Headers) (name : HeaderName) :
    (headers.insertAll inserted).values name =
      (values inserted name).getLast?.elim (headers.values name) ([·]) := by
  induction inserted using List.reverseRecOn with
  | nil => rfl
  | append_singleton inserted header ih =>
      obtain ⟨other, value⟩ := header
      have hinsert : headers.insertAll (inserted ++ [(other, value)]) =
          (headers.insertAll inserted).insert other value := insertAll_append _ _ _
      rw [hinsert]
      by_cases hname : name = other
      · subst hname
        have hvalues : values (inserted ++ [(name, value)]) name =
            values inserted name ++ [value] := values_append_self inserted name value
        rw [values_insert_self, hvalues, List.getLast?_append]
        rfl
      · have hvalues : values (inserted ++ [(other, value)]) name = values inserted name := by
          simp [values, Ne.symm hname]
        rw [values_insert_of_ne _ _ hname, ih, hvalues]

end Http.Headers

namespace Signing

/-- The header that an edit inserts, if it is one that does. -/
def Edit.header? : Edit → Option (HeaderName × HeaderValue)
  | .insertHeader name value sensitive => some (name, ⟨Utf8.ofString value, sensitive⟩)
  | _ => none

/-- The header that was inserted, if one was. -/
def Done.inserted? : Done → Option (HeaderName × HeaderValue)
  | ⟨.edit e, some (.ok ())⟩ => e.header?
  | _ => none

/-- The headers that were inserted, in this order. -/
def insertedOf (done : List Done) : Headers := done.filterMap Done.inserted?

theorem insertedOf_cons (d : Done) (done : List Done) :
    insertedOf (d :: done) = insertedOf [d] ++ insertedOf done := by
  show ([d] ++ done).filterMap Done.inserted? = _
  exact List.filterMap_append

/-! ### Drafts -/

namespace Draft

/-- A change of a draft inserts its header, if it has one, and leaves the others. -/
theorem headers_edit {draft draft' : Draft} {e : Edit} (h : draft.edit e = .ok draft') :
    draft'.headers = draft.headers.insertAll e.header?.toList := by
  cases e with
  | insertHeader name value sensitive =>
      obtain ⟨-, rfl⟩ := insertHeader_eq_ok_iff.mp h
      rfl
  | _ =>
      cases h
      rfl

end Draft

namespace Session

variable {s s' : Session} {headers : Headers} {draft : Draft}

/-! ### Who has the headers -/

/-- The headers of a session are these, and only one has them. While a draft is under way,
the uri of the head says nowhere where to go. -/
structure Holds (s : Session) (headers : Headers) : Prop where
  idle : s.draft = none → s.head.headers = headers
  live : ∀ draft, s.draft = some draft →
    draft.headers = headers ∧ s.head.headers = [] ∧ s.head.uri = .root

/-- A draft that cannot be started takes the uri out of the head, and no more. -/
theorem start_of_none (h : s.head.uri.authority = none) :
    s.start = (.error Draft.noAuthority, { s with head := { s.head with uri := .root } }) := by
  unfold start
  rw [Draft.start_of_none h]

theorem start_of_authority {authority : Authority} (h : s.head.uri.authority = some authority) :
    s.start = (.ok (), ⟨{ s.head with uri := .root, headers := [] },
      some (Draft.ofHead s.head authority)⟩) := by
  unfold start
  rw [Draft.start_of_authority h]

/-- A change that is answered is one of a draft. Either it is refused and nothing changes, or
the draft that it makes takes the place of the draft. -/
theorem edit_inv {e : Edit} {result : Except Error Unit} (h : s.edit e = some (result, s')) :
    ∃ draft, s.draft = some draft ∧
      ((∃ fault, draft.edit e = .error fault ∧ result = .error fault.error ∧ s' = s) ∨
        ∃ draft', draft.edit e = .ok draft' ∧ result = .ok () ∧
          s' = { s with draft := some draft' }) := by
  cases hdraft : s.draft with
  | none => simp [edit, hdraft] at h
  | some draft =>
      simp only [edit, hdraft, Option.map_some] at h
      refine ⟨draft, rfl, ?_⟩
      cases hchange : draft.edit e with
      | error fault =>
          rw [hchange] at h
          cases h
          exact .inl ⟨fault, rfl, rfl, rfl⟩
      | ok draft' =>
          rw [hchange] at h
          cases h
          exact .inr ⟨draft', rfl, rfl, rfl⟩

/-- A draft that is finished is gone, and its method and headers are in the head again. The
uri is too, if there is one. -/
theorem finish_inv {result : Except Error Unit} (h : s.finish = some (result, s')) :
    ∃ draft, s.draft = some draft ∧ s'.draft = none ∧
      ((∃ fault, draft.uri = .error fault ∧ result = .error fault.error ∧
          s'.head = { s.head with method := draft.method, headers := draft.headers }) ∨
        ∃ uri, draft.uri = .ok uri ∧ result = .ok () ∧
          s'.head =
            { s.head with method := draft.method, uri := uri, headers := draft.headers }) := by
  cases hdraft : s.draft with
  | none => simp [finish, hdraft] at h
  | some draft =>
      simp only [finish, hdraft, Option.map_some] at h
      refine ⟨draft, rfl, ?_⟩
      cases h
      refine ⟨rfl, ?_⟩
      unfold Draft.finish
      cases draft.uri with
      | error fault => exact .inl ⟨fault, rfl, rfl, rfl⟩
      | ok uri => exact .inr ⟨uri, rfl, rfl, rfl⟩

/-- While a draft is under way, no other is started, and it stays as it is. -/
theorem Holds.start_of_live (h : Holds s headers) (hdraft : s.draft = some draft) :
    s.start = (.error Draft.noAuthority, s) := by
  obtain ⟨-, -, huri⟩ := h.live draft hdraft
  rw [start_of_none (by rw [huri]; rfl), ← huri]

theorem Holds.start (h : Holds s headers) : Holds s.start.2 headers := by
  cases hauthority : s.head.uri.authority with
  | none =>
      rw [start_of_none hauthority]
      refine ⟨h.idle, fun draft hdraft => ?_⟩
      obtain ⟨hheaders, hempty, -⟩ := h.live draft hdraft
      exact ⟨hheaders, hempty, rfl⟩
  | some authority =>
      have hidle : s.draft = none := by
        by_contra hsome
        obtain ⟨draft, hdraft⟩ := Option.ne_none_iff_exists'.mp hsome
        rw [(h.live draft hdraft).2.2] at hauthority
        cases hauthority
      rw [start_of_authority hauthority]
      refine ⟨nofun, fun draft hdraft => ?_⟩
      cases hdraft
      exact ⟨h.idle hidle, rfl, rfl⟩

theorem Holds.edit (h : Holds s headers) {e : Edit} {result : Except Error Unit}
    (hedit : s.edit e = some (result, s')) :
    Holds s' (headers.insertAll (insertedOf [⟨.edit e, some result⟩])) := by
  obtain ⟨draft, hdraft, hcases⟩ := edit_inv hedit
  obtain ⟨hheaders, hempty, huri⟩ := h.live draft hdraft
  rcases hcases with ⟨fault, -, rfl, rfl⟩ | ⟨draft', hchange, rfl, rfl⟩
  · exact h
  · refine ⟨nofun, fun draft'' hdraft'' => ?_⟩
    cases hdraft''
    refine ⟨?_, hempty, huri⟩
    rw [Draft.headers_edit hchange, hheaders]
    cases e <;> rfl

theorem Holds.finish (h : Holds s headers) {result : Except Error Unit}
    (hfinish : s.finish = some (result, s')) : Holds s' headers := by
  obtain ⟨draft, hdraft, hgone, hcases⟩ := finish_inv hfinish
  obtain ⟨hheaders, -, -⟩ := h.live draft hdraft
  refine ⟨fun _ => ?_, fun draft' hdraft' => ?_⟩
  · rcases hcases with ⟨fault, -, -, hhead⟩ | ⟨uri, -, -, hhead⟩
    · rw [hhead]
      exact hheaders
    · rw [hhead]
      exact hheaders
  · rw [hgone] at hdraft'
    cases hdraft'

/-- Whatever is done, the headers are those from before, and what was inserted. -/
theorem Holds.act (h : Holds s headers) {command : Command} {result : Except Error Unit}
    (hact : s.act command = some (result, s')) :
    Holds s' (headers.insertAll (insertedOf [⟨command, some result⟩])) := by
  cases command with
  | start =>
      obtain rfl : s.start.2 = s' := congrArg Prod.snd (Option.some.inj hact)
      exact h.start
  | edit e => exact h.edit hact
  | finish => exact h.finish hact

theorem Holds.run (h : Holds s headers) (commands : List Command) :
    Holds (s.run commands).2 (headers.insertAll (insertedOf (s.run commands).1)) := by
  induction commands generalizing s headers with
  | nil => exact h
  | cons command rest ih =>
      unfold Session.run
      cases hact : s.act command with
      | none =>
          have hnothing : insertedOf [⟨command, none⟩] = [] := by
            cases command <;> rfl
          dsimp only
          rw [insertedOf_cons, hnothing]
          exact ih h
      | some done =>
          obtain ⟨result, s'⟩ := done
          dsimp only
          rw [insertedOf_cons, Headers.insertAll_append]
          exact ih (h.act hact)

/-! ### Runs -/

/-- What there is in a session that began with headers, after others were inserted, and what
a step leaves of it that fails then. -/
structure Accounted (original inserted : Headers) (s : Session) : Prop where
  idle : s.draft = none → s.head.headers = original.insertAll inserted
  live : ∀ draft, s.draft = some draft →
    draft.headers = original.insertAll inserted ∧ s.head.headers = [] ∧ s.head.uri = .root
  /-- Under each name stands the last that was inserted, or all that stood there at first. -/
  values : ∀ name, (original.insertAll inserted).values name =
    (inserted.values name).getLast?.elim (original.values name) ([·])
  /-- No draft is started beside another. -/
  start_live : s.draft.isSome → ∃ e, s.start = (.error e, s) ∧ e.kind = .requestInvalid
  start_refused : ∀ e s', s.start = (.error e, s') →
    s' = { s with head := { s.head with uri := .root } }
  edit_refused : ∀ change e s', s.edit change = some (.error e, s') → s' = s
  finish_ends : ∀ result s', s.finish = some (result, s') → s'.draft = none
  finish_refused : ∀ draft e s', s.draft = some draft → s.finish = some (.error e, s') →
    s'.head = { s.head with method := draft.method, uri := .root, headers := draft.headers }

theorem eq_of_start_refused {e : Error} (h : s.start = (.error e, s')) :
    s' = { s with head := { s.head with uri := .root } } := by
  cases hauthority : s.head.uri.authority with
  | none =>
      rw [start_of_none hauthority] at h
      cases h
      rfl
  | some authority =>
      rw [start_of_authority hauthority] at h
      cases h

theorem eq_of_edit_refused {change : Edit} {e : Error} (h : s.edit change = some (.error e, s')) :
    s' = s := by
  obtain ⟨_, -, ⟨_, -, -, hsame⟩ | ⟨_, -, hresult, -⟩⟩ := edit_inv h
  · exact hsame
  · cases hresult

theorem Holds.head_of_finish_refused (h : Holds s headers) (hdraft : s.draft = some draft)
    {e : Error} (hfinish : s.finish = some (.error e, s')) :
    s'.head = { s.head with method := draft.method, uri := .root, headers := draft.headers } := by
  obtain ⟨_, hsome, -, ⟨_, -, -, hhead⟩ | ⟨_, -, hresult, -⟩⟩ := finish_inv hfinish
  · obtain rfl := Option.some.inj (hdraft.symm.trans hsome)
    rw [hhead, ← (h.live draft hdraft).2.2]
  · cases hresult

/-- However a head is worked on, no header is lost and none is there twice: the head or its
draft has them all, and the other has none. -/
theorem run_accounted (head : Head) (commands : List Command) :
    Accounted head.headers (insertedOf (run ⟨head, none⟩ commands).1)
      (run ⟨head, none⟩ commands).2 := by
  have hfresh : Holds ⟨head, none⟩ head.headers := ⟨fun _ => rfl, nofun⟩
  have hholds := hfresh.run commands
  constructor
  case idle => exact hholds.idle
  case live => exact hholds.live
  case values => exact Headers.values_insertAll _ _
  case start_live =>
    intro hlive
    obtain ⟨draft, hdraft⟩ := Option.isSome_iff_exists.mp hlive
    exact ⟨_, hholds.start_of_live hdraft, rfl⟩
  case start_refused =>
    intro e s' hstart
    exact eq_of_start_refused hstart
  case edit_refused =>
    intro change e s' hedit
    exact eq_of_edit_refused hedit
  case finish_ends =>
    intro result s' hfinish
    obtain ⟨_, -, hgone, -⟩ := finish_inv hfinish
    exact hgone
  case finish_refused =>
    intro draft e s' hdraft hfinish
    exact hholds.head_of_finish_refused hdraft hfinish

end Session

end Signing

end SignedPayments
