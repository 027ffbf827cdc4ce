import SignedPayments.Proofs.Http.Appended
import SignedPayments.Proofs.Signing.Session

/-!
# SignedPayments.Proofs.Signing.Finished

The path and the query that a draft tells, and those of the uri that is written when it is
finished.

To finish a draft, what it tells is read once more. A number sign ends what is read, and a
path of no characters is the root. So a draft with a number sign does not tell what will be
sent (`Session.finish_tells`), and one that such texts were not put into does
(`Draft.IsPlain`).
-/

namespace SignedPayments

open Http

namespace Http.Target

/-- A path and a query as one text, as they were read; where there is neither, the root. -/
def joined (t : Target) : String :=
  if t.isEmpty then "/" else t.written ++ t.query.elim "" ("?" ++ ·)

section

variable {cs path rest : List Char} {query : Option (List Char)} {t : Target}

theorem Splits.path_eq_nil_iff (h : Splits cs path query rest) :
    path = [] ↔ (path ++ queryChars query).head?.all (· = '?') = true := by
  cases path with
  | nil => cases query <;> simp [queryChars]
  | cons c path => simpa using (h.path_chars c List.mem_cons_self).2

theorem queryChars_map_ofList (query : Option (List Char)) :
    ((query.map String.ofList).elim "" ("?" ++ ·)).toList = queryChars query := by
  cases query <;> simp [queryChars]

theorem joined_of_splits (h : Splits cs path query rest) (ht : ofChars cs = .ok t) :
    t.joined.toList =
      if path ++ queryChars query = [] then ['/'] else path ++ queryChars query := by
  rw [ofChars_of_splits h] at ht
  obtain ⟨hwritten, hquery⟩ := ofParts_inv ht
  have hempty : t.isEmpty = true ↔ path ++ queryChars query = [] := by
    rw [isEmpty, hwritten, hquery]
    cases query <;> simp [queryChars]
  unfold joined
  by_cases hnil : path ++ queryChars query = []
  · rw [if_pos (hempty.mpr hnil), if_pos hnil]
    rfl
  · rw [if_neg (mt hempty.mp hnil), if_neg hnil, String.toList_append, hwritten, hquery,
      queryChars_map_ofList, String.toList_ofList]

theorem text_of_splits (h : Splits cs path query rest) (ht : ofChars cs = .ok t) :
    t.text.toList = (if path = [] then ['/'] else path) ++ queryChars query := by
  rw [text, String.toList_append, path_of_splits h ht]
  rw [ofChars_of_splits h] at ht
  rw [(ofParts_inv ht).2, queryChars_map_ofList]

end

/-- What is read of a text that stands alone: the characters before a number sign. -/
structure ReadFrom (t : Target) (told : String) : Prop where
  joined : t.joined.toList =
    if told.toList.takeWhile (· ≠ '#') = [] then ['/'] else told.toList.takeWhile (· ≠ '#')
  /-- A server also sees the root where the path has no characters. -/
  text : t.text.toList =
    if (told.toList.takeWhile (· ≠ '#')).head?.all (· = '?') then
      '/' :: told.toList.takeWhile (· ≠ '#')
    else told.toList.takeWhile (· ≠ '#')
  joined_iff : t.joined = told ↔ '#' ∉ told.toList
  text_iff : t.text = told ↔ '#' ∉ told.toList ∧ told.toList.head? ≠ some '?'

theorem ne_nil_of_ofText {told : String} {t : Target} (h : ofText told = .ok t) :
    told.toList ≠ [] := by
  intro hnil
  unfold ofText at h
  dsimp only at h
  obtain ⟨-, h⟩ := refuse_eq_ok.mp h
  rw [hnil] at h
  cases h

theorem readFrom_of_ofText {told : String} {t : Target} (h : ofText told = .ok t) :
    t.ReadFrom told := by
  have hne := ne_nil_of_ofText h
  obtain ⟨path, query, rest, hsplits⟩ := exists_splits told.toList
  have hjoined := joined_of_splits hsplits (ofChars_of_ofText h)
  have htext := text_of_splits hsplits (ofChars_of_ofText h)
  have hnumber : '#' ∉ path ++ queryChars query := fun hmem => hsplits.kept_chars _ hmem rfl
  -- Without a number sign, everything is read.
  have hwhole : '#' ∉ told.toList → told.toList = path ++ queryChars query := by
    intro hnone
    rw [hsplits.eq, hsplits.no_number_iff.mp hnone, List.append_nil]
  constructor
  case joined => rw [hsplits.kept_eq, hjoined]
  case text =>
    rw [hsplits.kept_eq, htext]
    by_cases hpath : path = []
    · rw [if_pos hpath, if_pos (hsplits.path_eq_nil_iff.mp hpath), hpath]
      rfl
    · rw [if_neg hpath, if_neg (mt hsplits.path_eq_nil_iff.mpr hpath)]
  case joined_iff =>
    constructor
    · intro heq
      rw [← heq, hjoined]
      split
      · decide
      · exact hnumber
    · intro hnone
      rw [hwhole hnone] at hne
      rw [← String.toList_inj, hjoined, if_neg hne, hwhole hnone]
  case text_iff =>
    constructor
    · intro heq
      rw [← heq, htext]
      by_cases hpath : path = []
      · rw [if_pos hpath]
        rw [hpath, List.nil_append] at hnumber
        exact ⟨by simpa using hnumber, by simp⟩
      · rw [if_neg hpath, List.head?_append_of_ne_nil path hpath]
        exact ⟨hnumber, fun hhead => (hsplits.path_chars _ (List.mem_of_mem_head? hhead)).2 rfl⟩
    · intro hplain
      obtain ⟨hnone, hhead⟩ := hplain
      have hpath : path ≠ [] := by
        intro hnil
        have hmark := hsplits.path_eq_nil_iff.mp hnil
        rw [← hwhole hnone, List.head?_eq_some_head hne] at hmark
        rw [List.head?_eq_some_head hne] at hhead
        exact hhead (congrArg some (of_decide_eq_true hmark))
      rw [← String.toList_inj, htext, if_neg hpath, hwhole hnone]

end Http.Target

namespace Signing

/-! ### Plain drafts -/

/-- A path that is told as it will be sent. -/
def IsPlainPath (path : String) : Prop :=
  '#' ∉ path.toList ∧ ∃ c ∈ path.toList.head?, c ≠ '?'

/-- A query that is told as it will be sent. -/
def IsPlainQuery (query : Option String) : Prop := ∀ q ∈ query, '#' ∉ q.toList

/-- A change that puts no other path or query into a draft. -/
def Edit.IsPlain : Edit → Prop
  | .setPath path => IsPlainPath path
  | .setQuery query => IsPlainQuery query
  | _ => True

namespace Draft

/-- Drafts that tell what will be sent. -/
structure IsPlain (draft : Draft) : Prop where
  path : IsPlainPath draft.path
  query : IsPlainQuery draft.query

variable {draft draft' : Draft}

theorem IsPlain.pathAndQuery (h : draft.IsPlain) :
    '#' ∉ draft.pathAndQuery.toList ∧ draft.pathAndQuery.toList.head? ≠ some '?' := by
  obtain ⟨hnumber, c, hhead, hmark⟩ := h.path
  have hne : draft.path.toList ≠ [] := List.ne_nil_of_mem (List.mem_of_mem_head? hhead)
  have hstart : draft.path.toList.head? ≠ some '?' := by
    intro hquestion
    exact hmark (Option.some.inj (hhead.symm.trans hquestion))
  unfold Draft.pathAndQuery
  cases hquery : draft.query with
  | none => exact ⟨hnumber, hstart⟩
  | some query =>
      dsimp only
      split
      · exact ⟨hnumber, hstart⟩
      · rw [String.append_assoc, String.toList_append, List.head?_append_of_ne_nil _ hne]
        have hplain : '#' ∉ query.toList := h.query query hquery
        refine ⟨?_, hstart⟩
        simp [hnumber, hplain]

/-- The draft of a head has a path and a query that were read. -/
theorem isPlain_ofHead (head : Head) (authority : Authority) : (ofHead head authority).IsPlain := by
  have hchars : ∀ c ∈ (shownTarget head).path.toList, c ≠ '#' ∧ c ≠ '?' := fun c hc =>
    Target.ne_marks_of_isPathChar ((shownTarget head).path_chars c hc)
  have hne : (shownTarget head).path.toList ≠ [] := by
    simpa using (shownTarget head).path_ne_empty
  constructor
  case path =>
    refine ⟨fun hmem => (hchars _ hmem).1 rfl, _, List.head?_eq_some_head hne, ?_⟩
    exact (hchars _ (List.head_mem hne)).2
  case query =>
    intro q hq hmem
    have hquery : (shownTarget head).query = some q := hq
    have hall := (shownTarget head).query_chars
    rw [hquery, Option.all_some] at hall
    exact Target.ne_mark_of_isQueryChar (List.all_eq_true.mp hall _ hmem) rfl

theorem IsPlain.edit {e : Edit} (h : draft.IsPlain) (he : e.IsPlain)
    (hedit : draft.edit e = .ok draft') : draft'.IsPlain := by
  cases e with
  | insertHeader name value sensitive =>
      obtain ⟨-, rfl⟩ := insertHeader_eq_ok_iff.mp hedit
      exact ⟨h.path, h.query⟩
  | setPath path =>
      cases hedit
      exact ⟨he, h.query⟩
  | setQuery query =>
      cases hedit
      exact ⟨h.path, he⟩
  | _ =>
      cases hedit
      exact ⟨h.path, h.query⟩

end Draft

namespace Session

variable {s s' : Session}

/-- The draft under way tells what will be sent. -/
def IsPlain (s : Session) : Prop := ∀ draft, s.draft = some draft → draft.IsPlain

theorem IsPlain.act (h : s.IsPlain) {command : Command} (hplain : ∀ e, command = .edit e → e.IsPlain)
    {result : Except Error Unit} (hact : s.act command = some (result, s')) : s'.IsPlain := by
  cases command with
  | start =>
      obtain rfl : s.start.2 = s' := congrArg Prod.snd (Option.some.inj hact)
      cases hauthority : s.head.uri.authority with
      | none =>
          rw [start_of_none hauthority]
          exact h
      | some authority =>
          rw [start_of_authority hauthority]
          intro draft hdraft
          cases hdraft
          exact Draft.isPlain_ofHead s.head authority
  | edit e =>
      obtain ⟨draft, hdraft, ⟨fault, -, -, rfl⟩ | ⟨draft', hchange, -, rfl⟩⟩ := edit_inv hact
      · exact h
      · intro _ hdraft'
        cases hdraft'
        exact (h draft hdraft).edit (hplain e rfl) hchange
  | finish =>
      obtain ⟨_, -, hgone, -⟩ := finish_inv hact
      intro draft hdraft
      rw [hgone] at hdraft
      cases hdraft

theorem IsPlain.run (h : s.IsPlain) {commands : List Command}
    (hplain : ∀ e, .edit e ∈ commands → e.IsPlain) : (s.run commands).2.IsPlain := by
  induction commands generalizing s with
  | nil => exact h
  | cons command rest ih =>
      have hrest : ∀ e, .edit e ∈ rest → e.IsPlain := fun e he =>
        hplain e (List.mem_cons_of_mem _ he)
      unfold Session.run
      cases hact : s.act command with
      | none => exact ih h hrest
      | some done =>
          obtain ⟨result, s'⟩ := done
          have hfirst : ∀ e, command = .edit e → e.IsPlain := by
            intro e heq
            exact hplain e (heq ▸ List.mem_cons_self)
          exact ih (h.act hfirst hact) hrest

/-- A draft that is finished gives the head its scheme, its authority, and what is read of the
path and the query that it tells: all of it, unless there is a number sign in it. So it is,
whatever head the draft was started from, if no text with a number sign and no path without
characters was put into the draft. -/
theorem finish_tells {head : Head} {commands : List Command} {draft : Draft} {s' : Session}
    (hdraft : (run ⟨head, none⟩ commands).2.draft = some draft)
    (hfinish : (run ⟨head, none⟩ commands).2.finish = some (.ok (), s')) :
    s'.head.uri.scheme = some draft.scheme ∧ s'.head.uri.authority = some draft.authority ∧
      s'.head.uri.target.ReadFrom draft.pathAndQuery ∧
      ((∀ e, .edit e ∈ commands → e.IsPlain) →
        s'.head.uri.target.text = draft.pathAndQuery ∧
          s'.head.uri.target.joined = draft.pathAndQuery) := by
  have hplain : (∀ e, .edit e ∈ commands → e.IsPlain) → draft.IsPlain := fun hplain =>
    IsPlain.run (s := ⟨head, none⟩) nofun hplain draft hdraft
  obtain ⟨_, hsome, -, ⟨_, -, hresult, -⟩ | ⟨uri, huri, -, hhead⟩⟩ := finish_inv hfinish
  · cases hresult
  obtain rfl := Option.some.inj (hdraft.symm.trans hsome)
  obtain ⟨target, htarget, rfl⟩ := Draft.uri_eq_ok_iff.mp huri
  have hread := Target.readFrom_of_ofText htarget
  rw [hhead]
  refine ⟨rfl, rfl, hread, fun hedits => ?_⟩
  obtain ⟨hnumber, hquestion⟩ := (hplain hedits).pathAndQuery
  exact ⟨hread.text_iff.mpr ⟨hnumber, hquestion⟩, hread.joined_iff.mpr hnumber⟩

/-- So the path `/a#b` is told as it is, and `/a` is sent. -/
theorem finish_tells_number_sign :
    ∃ head commands draft s',
      (run ⟨head, none⟩ commands).2.draft = some draft ∧
      (run ⟨head, none⟩ commands).2.finish = some (.ok (), s') ∧
      draft.pathAndQuery = "/a#b" ∧ s'.head.uri.target.text = "/a" := by
  let head : Head := { method := .get, uri := ⟨some .https, some ⟨"h"⟩, .root⟩, headers := [] }
  let commands : List Command := [.start, .edit (.setPath "/a#b")]
  let draft : Draft := ⟨.get, .https, ⟨"h"⟩, "/a#b", none, []⟩
  have hdraft : (run ⟨head, none⟩ commands).2.draft = some draft := rfl
  have hfinish : (run ⟨head, none⟩ commands).2.finish = some (.ok (),
      ⟨{ head with uri := ⟨some .https, some ⟨"h"⟩, ⟨"/a", none, by decide, rfl⟩⟩ }, none⟩) := by
    cbv
  obtain ⟨-, -, hread, -⟩ := finish_tells hdraft hfinish
  refine ⟨head, commands, draft, _, hdraft, hfinish, rfl, String.toList_inj.mp ?_⟩
  rw [hread.text]
  decide +kernel

end Session

end Signing

end SignedPayments
