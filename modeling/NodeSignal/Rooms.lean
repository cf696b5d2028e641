import Mathlib.Logic.Relation
import Mathlib.Data.List.Infix

/-!
# Chat rooms

A room as its members see it: who is seated under which name, what each
member has heard, and everything that was announced.  An announcement
reaches every seated member at once, and a member that does not keep up
loses the seat.  Members also leave without a word.
-/

namespace Rooms

open Relation

/-- What is announced.  The identity is the one the speaker is seated
under. -/
inductive Notice (α β : Type*)
  | entered (who : α)
  | said (who : α) (what : β)
  | left (who : α)

structure Room (ι α β : Type*) where
  seats : ι → Option α
  heard : ι → List (Notice α β)
  log : List (Notice α β)

variable {ι α β ν : Type*}

def Notice.who : Notice α β → α
  | .entered who => who
  | .said who _ => who
  | .left who => who

/-- The notice is about who is there. -/
def Notice.Turns : Notice α β → Prop
  | .said _ _ => False
  | _ => True

def Room.empty : Room ι α β where
  seats := fun _ => none
  heard := fun _ => []
  log := []

section Steps

variable [DecidableEq ι]

def Room.seat (room : Room ι α β) (member : ι) (who : Option α) :
    Room ι α β :=
  { room with seats := Function.update room.seats member who }

/-- The notice reaches whoever keeps the seat, except for one member. -/
structure Announced (notice : Notice α β) (except : Option ι)
    (room room' : Room ι α β) : Prop where
  seats : ∀ member, room'.seats member = room.seats member ∨
    room'.seats member = none
  hears : ∀ member, (room'.seats member).isSome → some member ≠ except →
    room'.heard member = room.heard member ++ [notice]
  misses : ∀ member, room'.seats member = none ∨ some member = except →
    room'.heard member = room.heard member
  log : room'.log = room.log ++ [notice]

/-- What happens in a room.  The names are what members may not share. -/
inductive Step (name : α → ν) : Room ι α β → Room ι α β → Prop
  | enter (room room' : Room ι α β) (member : ι) (who : α)
      (hseat : room.seats member = none) (hheard : room.heard member = [])
      (hunused : ∀ other who', room.seats other = some who' →
        name who' ≠ name who)
      (hannounced : Announced (.entered who) none
        (room.seat member (some who)) room') :
      Step name room room'
  | say (room room' : Room ι α β) (member : ι) (who : α) (what : β)
      (hseat : room.seats member = some who)
      (hannounced : Announced (.said who what) none room room') :
      Step name room room'
  | leave (room room' : Room ι α β) (member : ι) (who : α)
      (hseat : room.seats member = some who)
      (hannounced : Announced (.left who) (some member) room room') :
      Step name room (room'.seat member none)
  | vanish (room : Room ι α β) (member : ι) :
      Step name room (room.seat member none)

end Steps

/-! ## Names -/

/-- No two members are seated under one name. -/
def Room.Distinct (name : α → ν) (room : Room ι α β) : Prop :=
  ∀ left right who who', room.seats left = some who →
    room.seats right = some who' → name who = name who' → left = right

/-- The last word on who goes by a name. -/
def Standing (name : α → ν) (log : List (Notice α β)) (who : α) : Prop :=
  ∃ before later, log = before ++ .entered who :: later ∧
    ∀ notice ∈ later, notice.Turns → name notice.who ≠ name who

/-- Nobody speaks or leaves under a name but the one who entered under it
last. -/
def Orderly (name : α → ν) (log : List (Notice α β)) : Prop :=
  ∀ before notice later, log = before ++ notice :: later →
    (∀ who, notice ≠ .entered who) → Standing name before notice.who

section Names

variable {name : α → ν} {room room' : Room ι α β}

/-- Who is seated after an announcement was seated before. -/
theorem Announced.seated {notice : Notice α β} {except : Option ι}
    (hannounced : Announced notice except room room') {member : ι}
    {who : α} (hseat : room'.seats member = some who) :
    room.seats member = some who := by
  rcases hannounced.seats member with hsame | hnone
  · exact hsame.symm.trans hseat
  · exact absurd (hnone.symm.trans hseat) (Option.some_ne_none who).symm

theorem Room.Distinct.narrow (hdistinct : room.Distinct name)
    (hseats : ∀ member who, room'.seats member = some who →
      room.seats member = some who) : room'.Distinct name :=
  fun left right who who' hleft hright =>
    hdistinct left right who who' (hseats left who hleft)
      (hseats right who' hright)

theorem Standing.append {log : List (Notice α β)} {who : α}
    (hstanding : Standing name log who) {notice : Notice α β}
    (hother : notice.Turns → name notice.who ≠ name who) :
    Standing name (log ++ [notice]) who := by
  obtain ⟨before, later, rfl, hlater⟩ := hstanding
  refine ⟨before, later ++ [notice], by simp, ?_⟩
  intro notice' hmem
  rw [List.mem_append, List.mem_singleton] at hmem
  rcases hmem with hold | rfl
  · exact hlater notice' hold
  · exact hother

theorem standing_entered (log : List (Notice α β)) (who : α) :
    Standing name (log ++ [.entered who]) who :=
  ⟨log, [], rfl, fun _ hmem => absurd hmem List.not_mem_nil⟩

theorem orderly_nil : Orderly name ([] : List (Notice α β)) :=
  fun _ _ _ hsplit => absurd hsplit (by simp)

theorem Orderly.append {log : List (Notice α β)}
    (horderly : Orderly name log) {notice : Notice α β}
    (hspeaks : (∀ who, notice ≠ .entered who) →
      Standing name log notice.who) :
    Orderly name (log ++ [notice]) := by
  intro before notice' later hsplit hkind
  rcases List.eq_nil_or_concat later with rfl | ⟨init, last, rfl⟩
  · obtain ⟨rfl, hlast⟩ := List.append_inj' hsplit rfl
    obtain rfl : notice = notice' := by simpa using hlast
    exact hspeaks hkind
  · have hsplit' : log ++ [notice] =
        (before ++ notice' :: init) ++ [last] := by
      simpa using hsplit
    obtain ⟨rfl, -⟩ := List.append_inj' hsplit' rfl
    exact horderly before notice' init rfl hkind

/-- The log is in order, and whoever is seated has the last word on the own
name. -/
structure Room.Ordered (name : α → ν) (room : Room ι α β) : Prop where
  distinct : room.Distinct name
  log : Orderly name room.log
  standing : ∀ member who, room.seats member = some who →
    Standing name room.log who

theorem ordered_empty : (Room.empty : Room ι α β).Ordered name where
  distinct := fun _ _ _ _ hleft =>
    absurd hleft (Option.some_ne_none _).symm
  log := orderly_nil
  standing := fun _ _ hseat => absurd hseat (Option.some_ne_none _).symm

variable [DecidableEq ι]

@[simp] theorem Room.seat_self (member : ι) (who : Option α) :
    (room.seat member who).seats member = who := by
  simp [Room.seat]

theorem Room.seat_of_ne {member other : ι} (hne : other ≠ member)
    (who : Option α) :
    (room.seat member who).seats other = room.seats other := by
  simp [Room.seat, Function.update_of_ne hne]

theorem Room.seated_of_unseat {member other : ι} {who : α}
    (hseat : (room.seat member none).seats other = some who) :
    other ≠ member ∧ room.seats other = some who := by
  by_cases hsame : other = member
  · rw [hsame, Room.seat_self] at hseat
    exact absurd hseat (Option.some_ne_none who).symm
  · rw [Room.seat_of_ne hsame] at hseat
    exact ⟨hsame, hseat⟩

theorem Room.Distinct.enter (hdistinct : room.Distinct name) {member : ι}
    {who : α} (hunused : ∀ other who', room.seats other = some who' →
      name who' ≠ name who) :
    (room.seat member (some who)).Distinct name := by
  intro left right whoLeft whoRight hleft hright hname
  by_cases hl : left = member <;> by_cases hr : right = member
  · exact hl.trans hr.symm
  · rw [hl, Room.seat_self, Option.some.injEq] at hleft
    rw [Room.seat_of_ne hr] at hright
    rw [← hleft] at hname
    exact absurd hname.symm (hunused right whoRight hright)
  · rw [hr, Room.seat_self, Option.some.injEq] at hright
    rw [Room.seat_of_ne hl] at hleft
    rw [← hright] at hname
    exact absurd hname (hunused left whoLeft hleft)
  · rw [Room.seat_of_ne hl] at hleft
    rw [Room.seat_of_ne hr] at hright
    exact hdistinct left right whoLeft whoRight hleft hright hname

theorem Step.distinct (hstep : Step name room room')
    (hdistinct : room.Distinct name) : room'.Distinct name := by
  cases hstep with
  | enter _ member who hseat hheard hunused hannounced =>
      exact (hdistinct.enter hunused).narrow
        fun _ _ hnow => hannounced.seated hnow
  | say _ member who what hseat hannounced =>
      exact hdistinct.narrow fun _ _ hnow => hannounced.seated hnow
  | leave middle member who hseat hannounced =>
      exact hdistinct.narrow fun _ _ hnow =>
        hannounced.seated (Room.seated_of_unseat hnow).2
  | vanish member =>
      exact hdistinct.narrow fun _ _ hnow =>
        (Room.seated_of_unseat hnow).2

theorem Step.ordered (hstep : Step name room room')
    (hordered : room.Ordered name) : room'.Ordered name := by
  refine ⟨hstep.distinct hordered.distinct, ?_, ?_⟩
  · cases hstep with
    | enter _ member who hseat hheard hunused hannounced =>
        rw [hannounced.log]
        exact hordered.log.append fun hkind => absurd rfl (hkind who)
    | say _ member who what hseat hannounced =>
        rw [hannounced.log]
        exact hordered.log.append fun _ => hordered.standing member who hseat
    | leave middle member who hseat hannounced =>
        change Orderly name middle.log
        rw [hannounced.log]
        exact hordered.log.append fun _ => hordered.standing member who hseat
    | vanish member => exact hordered.log
  · cases hstep with
    | enter _ member who hseat hheard hunused hannounced =>
        intro other who' hnow
        have hbefore := hannounced.seated hnow
        rw [hannounced.log]
        by_cases hsame : other = member
        · rw [hsame, Room.seat_self, Option.some.injEq] at hbefore
          rw [← hbefore]
          exact standing_entered room.log who
        · rw [Room.seat_of_ne hsame] at hbefore
          exact (hordered.standing other who' hbefore).append
            fun _ => (hunused other who' hbefore).symm
    | say _ member who what hseat hannounced =>
        intro other who' hnow
        rw [hannounced.log]
        exact (hordered.standing other who'
          (hannounced.seated hnow)).append fun hturns => hturns.elim
    | leave middle member who hseat hannounced =>
        intro other who' hnow
        obtain ⟨hne, hmiddle⟩ := Room.seated_of_unseat hnow
        have hbefore := hannounced.seated hmiddle
        change Standing name middle.log who'
        rw [hannounced.log]
        refine (hordered.standing other who' hbefore).append fun _ hname => ?_
        exact hne (hordered.distinct other member who' who hbefore hseat
          hname.symm)
    | vanish member =>
        exact fun other who' hnow =>
          hordered.standing other who' (Room.seated_of_unseat hnow).2

end Names

/-! ## What is heard -/

/-- What the member has heard goes from the own entrance up to now. -/
def Room.Follows (room : Room ι α β) (member : ι) (who : α) : Prop :=
  (∃ before, room.log = before ++ room.heard member) ∧
    ∃ later, room.heard member = .entered who :: later

/-- A member has heard a part of the log without gaps, and follows it while
it is seated. -/
structure Room.Heard (room : Room ι α β) : Prop where
  seated : ∀ member who, room.seats member = some who →
    room.Follows member who
  within : ∀ member, room.heard member <:+: room.log

theorem heard_empty : (Room.empty : Room ι α β).Heard where
  seated := fun _ _ hseat => absurd hseat (Option.some_ne_none _).symm
  within := fun _ => List.infix_rfl

section Hearing

variable {name : α → ν} {room room' : Room ι α β}

/-- Who follows the log goes on following it. -/
theorem Announced.follows {notice : Notice α β} {except : Option ι}
    (hannounced : Announced notice except room room') {member : ι}
    {who : α} (hseat : room'.seats member = some who)
    (hexcept : some member ≠ except)
    (hlog : ∃ before, room.log = before ++ room.heard member)
    (hfirst : ∃ later,
      room.heard member ++ [notice] = .entered who :: later) :
    room'.Follows member who := by
  obtain ⟨before, hlog⟩ := hlog
  have hhears : room'.heard member = room.heard member ++ [notice] := by
    refine hannounced.hears member ?_ hexcept
    rw [hseat]
    rfl
  refine ⟨⟨before, ?_⟩, ?_⟩
  · rw [hannounced.log, hhears, hlog, List.append_assoc]
  · rw [hhears]
    exact hfirst

theorem Room.Follows.goes {member : ι} {who : α}
    (hfollows : room.Follows member who) (notice : Notice α β) :
    ∃ later, room.heard member ++ [notice] = .entered who :: later := by
  obtain ⟨-, later, hfirst⟩ := hfollows
  exact ⟨later ++ [notice], by rw [hfirst, List.cons_append]⟩

theorem Announced.within {notice : Notice α β} {except : Option ι}
    (hannounced : Announced notice except room room')
    (hwithin : ∀ member, room.heard member <:+: room.log)
    (hfollows : ∀ member who, room'.seats member = some who →
      some member ≠ except → room'.Follows member who) (member : ι) :
    room'.heard member <:+: room'.log := by
  have hmisses : room'.seats member = none ∨ some member = except →
      room'.heard member <:+: room'.log := by
    intro hmiss
    rw [hannounced.misses member hmiss, hannounced.log]
    exact (hwithin member).trans (List.prefix_append _ _).isInfix
  cases hseat : room'.seats member with
  | none => exact hmisses (Or.inl hseat)
  | some who =>
      by_cases hexcept : some member = except
      · exact hmisses (Or.inr hexcept)
      · obtain ⟨⟨before, hlog⟩, -⟩ := hfollows member who hseat hexcept
        rw [hlog]
        exact (List.suffix_append _ _).isInfix

variable [DecidableEq ι]

theorem Step.heard (hstep : Step name room room') (hheard : room.Heard) :
    room'.Heard := by
  cases hstep with
  | enter _ member who hseat hsilent hunused hannounced =>
      have hfollows : ∀ other who', room'.seats other = some who' →
          some other ≠ none → room'.Follows other who' := by
        intro other who' hnow hexcept
        have hbefore := hannounced.seated hnow
        by_cases hsame : other = member
        · rw [hsame, Room.seat_self, Option.some.injEq] at hbefore
          refine hannounced.follows hnow hexcept ⟨room.log, ?_⟩ ⟨[], ?_⟩
          · change room.log = room.log ++ room.heard other
            rw [hsame, hsilent, List.append_nil]
          · change room.heard other ++ [.entered who] = [.entered who']
            rw [hsame, hsilent, hbefore]
            rfl
        · rw [Room.seat_of_ne hsame] at hbefore
          have hold := hheard.seated other who' hbefore
          exact hannounced.follows hnow hexcept hold.1 (hold.goes _)
      exact ⟨fun other who' hnow => hfollows other who' hnow (by simp),
        hannounced.within hheard.within hfollows⟩
  | say _ member who what hseat hannounced =>
      have hfollows : ∀ other who', room'.seats other = some who' →
          some other ≠ none → room'.Follows other who' := by
        intro other who' hnow hexcept
        have hold := hheard.seated other who' (hannounced.seated hnow)
        exact hannounced.follows hnow hexcept hold.1 (hold.goes _)
      exact ⟨fun other who' hnow => hfollows other who' hnow (by simp),
        hannounced.within hheard.within hfollows⟩
  | leave middle member who hseat hannounced =>
      have hfollows : ∀ other who', middle.seats other = some who' →
          some other ≠ some member → middle.Follows other who' := by
        intro other who' hnow hexcept
        have hold := hheard.seated other who' (hannounced.seated hnow)
        exact hannounced.follows hnow hexcept hold.1 (hold.goes _)
      refine ⟨fun other who' hnow => ?_,
        hannounced.within hheard.within hfollows⟩
      obtain ⟨hne, hmiddle⟩ := Room.seated_of_unseat hnow
      exact hfollows other who' hmiddle fun hsame =>
        hne (Option.some.inj hsame)
  | vanish member =>
      exact ⟨fun other who' hnow =>
        hheard.seated other who' (Room.seated_of_unseat hnow).2,
        hheard.within⟩

end Hearing

/-! ## Runs -/

section Runs

variable [DecidableEq ι] {name : α → ν} {room : Room ι α β}

/-- In every room that can come about the names are distinct, the log is in
order, and nobody has heard anything but a part of it. -/
theorem reached (hreaches : ReflTransGen (Step name) .empty room) :
    room.Ordered name ∧ room.Heard := by
  induction hreaches with
  | refl => exact ⟨ordered_empty, heard_empty⟩
  | tail _ hstep ih => exact ⟨hstep.ordered ih.1, hstep.heard ih.2⟩

end Runs

end Rooms
