import Mathlib.Tactic

/-!
# Validators

A store hands out its pages with a tag. A client that has a copy sends the tag
back and, where it still is the page's tag, is told that nothing changed. Over
any versions of the store in which a name and a tag stand for one page, the
client ends up with the page it would have been sent without its copies.
-/

namespace Reprox.Foundations.Validators

variable {Version Name Tag Page : Type*}

/-- What the versions of a store have under their names. -/
abbrev Store (Version Name Tag Page : Type*) := Version → Name → Option (Tag × Page)

abbrev Copies (Name Tag Page : Type*) := Name → Option (Tag × Page)

inductive Reply (Tag Page : Type*) where
  | whole (tag : Tag) (page : Page)
  | unchanged
  | missing

/-- A name and a tag stand for one page, whatever the version. -/
def Faithful (store : Store Version Name Tag Page) : Prop :=
  ∀ v w name tag page page', store v name = some (tag, page) → store w name = some (tag, page') →
    page = page'

def Sound (store : Store Version Name Tag Page) (copies : Copies Name Tag Page) : Prop :=
  ∀ name tag page, copies name = some (tag, page) → ∃ v, store v name = some (tag, page)

/-- The copy that a client has after the reply, which is also what it ends up with. -/
def receive (copy : Option (Tag × Page)) : Reply Tag Page → Option (Tag × Page)
  | .whole tag page => some (tag, page)
  | .unchanged => copy
  | .missing => none

section Reply

variable [DecidableEq Tag] {store : Store Version Name Tag Page}
  {copies : Copies Name Tag Page}

/-- The reply to a client that holds a page with the tag `held`. -/
def reply (store : Store Version Name Tag Page) (v : Version) (name : Name) (held : Option Tag) :
    Reply Tag Page :=
  match store v name with
  | some (tag, page) => if held = some tag then .unchanged else .whole tag page
  | none => .missing

/-- A client ends up with the page of the version it asked, as if it had no copy. -/
theorem receive_reply (hfaithful : Faithful store) (hsound : Sound store copies) (v : Version)
    (name : Name) :
    receive (copies name) (reply store v name ((copies name).map Prod.fst)) = store v name := by
  unfold reply
  cases hpage : store v name with
  | none => rfl
  | some page =>
    obtain ⟨tag, page⟩ := page
    by_cases hheld : (copies name).map Prod.fst = some tag
    · obtain ⟨⟨held, copy⟩, hcopy, rfl⟩ := Option.map_eq_some_iff.mp hheld
      obtain ⟨w, hw⟩ := hsound name held copy hcopy
      rw [hfaithful v w name held page copy hpage hw]
      simp [receive, hcopy]
    · simp [hheld, receive]

end Reply

theorem Sound.update [DecidableEq Name] {store : Store Version Name Tag Page}
    {copies : Copies Name Tag Page} (hsound : Sound store copies) (v : Version) (name : Name) :
    Sound store (Function.update copies name (store v name)) := by
  intro other tag page h
  by_cases hother : other = name
  · subst hother
    rw [Function.update_self] at h
    exact ⟨v, h⟩
  · rw [Function.update_of_ne hother] at h
    exact hsound other tag page h

theorem sound_empty (store : Store Version Name Tag Page) : Sound store fun _ => none := by
  intro name tag page h
  cases h

end Reprox.Foundations.Validators
