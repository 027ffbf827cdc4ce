import SignedPayments.Context
import SignedPayments.Proofs.Text.Quoted

/-!
# SignedPayments.Proofs.Context

What is shown of variables that are given by a list: all of them, with their values. The text
tells the list, whatever follows it (`Environment.entriesText_append_inj`), and so does what is
shown of a context (`Context.describe_append_inj`).
-/

namespace SignedPayments

namespace Environment

/-- A variable as it is shown. -/
def entryChars (var : String × String) : List Char :=
  (quoted var.1).toList ++ ':' :: ' ' :: (quoted var.2).toList

/-- Variables that are shown after others. -/
def moreChars (vars : List (String × String)) : List Char :=
  vars.flatMap fun var => ',' :: ' ' :: entryChars var

/-- Variables as they are shown. -/
def entriesChars : List (String × String) → List Char
  | [] => []
  | var :: vars => entryChars var ++ moreChars vars

variable {var var' : String × String} {vars vars' : List (String × String)} {xs ys : List Char}

theorem toList_intercalate (vars : List (String × String)) :
    (", ".intercalate (vars.map fun (key, value) => quoted key ++ ": " ++ quoted value)).toList =
      entriesChars vars := by
  induction vars with
  | nil => rfl
  | cons var vars ih =>
      cases vars with
      | nil => simp [entriesChars, entryChars, moreChars]
      | cons next vars =>
          rw [List.map_cons, String.intercalate_cons_of_ne_nil (by simp), String.toList_append, ih]
          simp [entriesChars, entryChars, moreChars]

theorem toList_entriesText (vars : List (String × String)) :
    (entriesText vars).toList = '\x7b' :: (entriesChars vars ++ ['\x7d']) := by
  rw [entriesText, String.toList_append, String.toList_append, toList_intercalate]
  rfl

theorem entryChars_append_inj (h : entryChars var ++ xs = entryChars var' ++ ys) :
    var = var' ∧ xs = ys := by
  simp only [entryChars, List.append_assoc, List.cons_append] at h
  obtain ⟨hkey, hrest⟩ := quoted_append_inj h
  simp only [List.cons.injEq, true_and] at hrest
  obtain ⟨hvalue, hmore⟩ := quoted_append_inj hrest
  exact ⟨Prod.ext hkey hvalue, hmore⟩

/-- After a variable, a comma tells that there is one more, and a brace that there is none. -/
theorem moreChars_append_inj (h : moreChars vars ++ '\x7d' :: xs = moreChars vars' ++ '\x7d' :: ys) :
    vars = vars' ∧ xs = ys := by
  induction vars generalizing vars' with
  | nil =>
      cases vars' with
      | nil => simpa [moreChars] using h
      | cons var' vars' => simp [moreChars] at h
  | cons var vars ih =>
      cases vars' with
      | nil => simp [moreChars] at h
      | cons var' vars' =>
          simp only [moreChars, List.flatMap_cons, List.cons_append, List.append_assoc,
            List.cons.injEq, true_and] at h
          obtain ⟨rfl, hrest⟩ := entryChars_append_inj h
          obtain ⟨rfl, hxs⟩ := ih hrest
          exact ⟨rfl, hxs⟩

theorem entriesChars_append_inj
    (h : entriesChars vars ++ '\x7d' :: xs = entriesChars vars' ++ '\x7d' :: ys) :
    vars = vars' ∧ xs = ys := by
  cases vars with
  | nil =>
      cases vars' with
      | nil => simpa [entriesChars] using h
      | cons var' vars' => simp [entriesChars, entryChars, quoted] at h
  | cons var vars =>
      cases vars' with
      | nil => simp [entriesChars, entryChars, quoted] at h
      | cons var' vars' =>
          simp only [entriesChars, List.append_assoc] at h
          obtain ⟨rfl, hrest⟩ := entryChars_append_inj h
          obtain ⟨rfl, hxs⟩ := moreChars_append_inj hrest
          exact ⟨rfl, hxs⟩

/-- What is shown of a list of variables tells the list. -/
theorem entriesText_append_inj {s t : String} (h : entriesText vars ++ s = entriesText vars' ++ t) :
    vars = vars' ∧ s = t := by
  have hchars := congrArg String.toList h
  simp only [String.toList_append, toList_entriesText, List.cons_append, List.append_assoc,
    List.nil_append, List.cons.injEq, true_and] at hchars
  obtain ⟨hvars, hrest⟩ := entriesChars_append_inj hchars
  exact ⟨hvars, String.toList_inj.mp hrest⟩

end Environment

namespace Context

variable {transport : Http.Transport} {vars vars' : List (String × String)}

theorem describe_ofList_append (transport : Http.Transport) (vars : List (String × String))
    (s : String) :
    (Context.mk transport (.ofList vars)).describe ++ s =
      ("Context \x7b http: " ++ transport.name ++ ", env: " ++ "StaticEnv \x7b envs: ") ++
        (Environment.entriesText vars ++ (" \x7d" ++ (" \x7d" ++ s))) := by
  unfold describe Environment.ofList
  refine String.toList_inj.mp ?_
  simp only [String.toList_append, List.append_assoc]

/-- So does what is shown of a context with these variables, whatever follows. -/
theorem describe_append_inj {s t : String}
    (h : (Context.mk transport (.ofList vars)).describe ++ s =
      (Context.mk transport (.ofList vars')).describe ++ t) : vars = vars' ∧ s = t := by
  rw [describe_ofList_append, describe_ofList_append, String.append_right_inj] at h
  obtain ⟨hvars, hrest⟩ := Environment.entriesText_append_inj h
  rw [String.append_right_inj, String.append_right_inj] at hrest
  exact ⟨hvars, hrest⟩

end Context

end SignedPayments
