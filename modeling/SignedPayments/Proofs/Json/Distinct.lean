import SignedPayments.Proofs.Json.Numbers
import SignedPayments.Proofs.Json.Quoting
import SignedPayments.Proofs.Json.Written

/-!
# SignedPayments.Proofs.Json.Distinct

Different values have different texts (`Value.chars_inj`), at any depth: the numbers in them are
told with their kinds, and the members of objects with their keys.

The first character of a text tells the kind of the value (`Value.exists_chars`). Within a list
or an object, the text of a value ends at the mark after it, since no text goes on there
(`Value.chars_append_inj`). So items and members are read off from the front.
-/

namespace SignedPayments

namespace Json

/-! ### Kinds -/

/-- What the first character of a text tells. -/
inductive Kind
  | null
  | bool (b : Bool)
  | number
  | string
  | array
  | object

/-- The kind of a value. -/
def Value.kind : Value → Kind
  | .null => .null
  | .bool b => .bool b
  | .number _ => .number
  | .string _ => .string
  | .array _ => .array
  | .object _ => .object

/-- The kind of the values whose texts begin with a character. -/
def Kind.ofFirst? (c : Char) : Option Kind :=
  if c = '-' ∨ Digits.isDigit c = true then some .number
  else if c = 'n' then some .null
  else if c = 't' then some (.bool true)
  else if c = 'f' then some (.bool false)
  else if c = '"' then some .string
  else if c = '[' then some .array
  else if c = '\x7b' then some .object
  else none

theorem Value.exists_chars (v : Value) :
    ∃ c rest, v.chars = c :: rest ∧ Kind.ofFirst? c = some v.kind := by
  cases v with
  | null => exact ⟨'n', _, rfl, rfl⟩
  | bool b =>
      cases b with
      | false => exact ⟨'f', _, rfl, rfl⟩
      | true => exact ⟨'t', _, rfl, rfl⟩
  | number n =>
      obtain ⟨c, rest, hchars, hc⟩ := n.exists_chars
      exact ⟨c, rest, hchars, if_pos hc⟩
  | string s => exact ⟨'"', _, rfl, rfl⟩
  | array items => cases items <;> exact ⟨'[', _, rfl, rfl⟩
  | object members => cases members <;> exact ⟨'\x7b', _, rfl, rfl⟩

/-- Values with one text are of one kind. -/
theorem Value.kind_eq {v w : Value} (h : v.chars = w.chars) : v.kind = w.kind := by
  obtain ⟨c, rest, hv, hkind⟩ := v.exists_chars
  obtain ⟨d, rest', hw, hkind'⟩ := w.exists_chars
  rw [hv, hw] at h
  obtain ⟨rfl, -⟩ := List.cons.inj h
  exact Option.some.inj (hkind.symm.trans hkind')

/-- No text of a value begins with the end of a list. -/
theorem Value.append_ne_end (v : Value) (r r' : List Char) : v.chars ++ r ≠ ']' :: r' := by
  intro h
  obtain ⟨c, rest, hchars, hkind⟩ := v.exists_chars
  rw [hchars] at h
  obtain ⟨rfl, -⟩ := List.cons.inj h
  cases hkind

/-! ### Marks after values -/

theorem Value.accepts_chars (v : Value) : Scan.accepts (Utf8.encode v.chars) = true := by
  obtain ⟨t, ht, hreads⟩ := v.reads []
  exact accepts_of_reads hreads ht

/-- The text of a value ends at the mark after it. -/
theorem Value.chars_append_inj {v w : Value} {r r' : List Char} {c d : Char} (hc : IsMark c)
    (hd : IsMark d) (h : v.chars ++ c :: r = w.chars ++ d :: r') :
    v.chars = w.chars ∧ c :: r = d :: r' :=
  append_mark_inj hc hd v.accepts_chars w.accepts_chars h

theorem exists_itemsChars_cons (items : List Value) :
    ∃ c rest, itemsChars items = c :: rest ∧ IsMark c := by
  cases items with
  | nil => exact ⟨']', _, rfl, .inr (.inl rfl)⟩
  | cons item rest => exact ⟨',', _, rfl, .inl rfl⟩

theorem exists_membersChars_cons (members : List (String × Value)) :
    ∃ c rest, membersChars members = c :: rest ∧ IsMark c := by
  cases members with
  | nil => exact ⟨'\x7d', _, rfl, .inr (.inr rfl)⟩
  | cons member rest => exact ⟨',', _, rfl, .inl rfl⟩

theorem append_itemsChars_inj {v w : Value} {items items' : List Value}
    (h : v.chars ++ itemsChars items = w.chars ++ itemsChars items') :
    v.chars = w.chars ∧ itemsChars items = itemsChars items' := by
  obtain ⟨c, rest, hitems, hc⟩ := exists_itemsChars_cons items
  obtain ⟨d, rest', hitems', hd⟩ := exists_itemsChars_cons items'
  rw [hitems, hitems'] at h ⊢
  exact Value.chars_append_inj hc hd h

/-- A member ends where its value does, and its key before the colon. -/
theorem append_membersChars_inj {key key' : String} {v w : Value}
    {members members' : List (String × Value)}
    (h : stringChars key ++ ':' :: (v.chars ++ membersChars members) =
      stringChars key' ++ ':' :: (w.chars ++ membersChars members')) :
    key = key' ∧ v.chars = w.chars ∧ membersChars members = membersChars members' := by
  obtain ⟨hkey, hvalue⟩ := stringChars_append_inj h
  obtain ⟨c, rest, hmembers, hc⟩ := exists_membersChars_cons members
  obtain ⟨d, rest', hmembers', hd⟩ := exists_membersChars_cons members'
  have hrest := (List.cons.inj hvalue).2
  rw [hmembers, hmembers'] at hrest ⊢
  exact ⟨hkey, Value.chars_append_inj hc hd hrest⟩

/-! ### Values -/

mutual

/-- A value is told by its text. -/
theorem Value.chars_inj (v w : Value) (h : v.chars = w.chars) : v = w := by
  have hkind := Value.kind_eq h
  match v, w, h, hkind with
  | .null, .null, _, _ => rfl
  | .bool _, .bool _, _, hkind => cases hkind; rfl
  | .number _, .number _, h, _ => rw [Number.chars_inj h]
  | .string s, .string t, h, _ =>
      have hstring : stringChars s ++ [] = stringChars t ++ [] := by
        rw [List.append_nil, List.append_nil]
        exact h
      rw [(stringChars_append_inj hstring).1]
  | .array [], .array [], _, _ => rfl
  | .array [], .array (item :: _), h, _ =>
      exact absurd (List.cons.inj h).2.symm (item.append_ne_end _ _)
  | .array (item :: _), .array [], h, _ =>
      exact absurd (List.cons.inj h).2 (item.append_ne_end _ _)
  | .array (item :: rest), .array (item' :: rest'), h, _ =>
      obtain ⟨hitem, hrest⟩ := append_itemsChars_inj (List.cons.inj h).2
      rw [item.chars_inj item' hitem, itemsChars_inj rest rest' hrest]
  | .object [], .object [], _, _ => rfl
  | .object ((key, v) :: rest), .object ((key', v') :: rest'), h, _ =>
      obtain ⟨rfl, hvalue, hrest⟩ := append_membersChars_inj (List.cons.inj h).2
      rw [v.chars_inj v' hvalue, membersChars_inj rest rest' hrest]

theorem itemsChars_inj (items items' : List Value) (h : itemsChars items = itemsChars items') :
    items = items' := by
  match items, items', h with
  | [], [], _ => rfl
  | item :: rest, item' :: rest', h =>
      obtain ⟨hitem, hrest⟩ := append_itemsChars_inj (List.cons.inj h).2
      rw [item.chars_inj item' hitem, itemsChars_inj rest rest' hrest]

theorem membersChars_inj (members members' : List (String × Value))
    (h : membersChars members = membersChars members') : members = members' := by
  match members, members', h with
  | [], [], _ => rfl
  | (key, v) :: rest, (key', v') :: rest', h =>
      obtain ⟨rfl, hvalue, hrest⟩ := append_membersChars_inj (List.cons.inj h).2
      rw [v.chars_inj v' hvalue, membersChars_inj rest rest' hrest]

end

/-- An object is told by its text. -/
theorem Object.chars_inj {members members' : Object} (h : members.chars = members'.chars) :
    members = members' := by
  cases Value.chars_inj (.object members) (.object members') h
  rfl

end Json

end SignedPayments
