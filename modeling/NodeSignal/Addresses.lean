import NodeSignal.CStrings
import NodeSignal.Ledgers
import NodeSignal.RingWindow
import NodeSignal.Sockets

/-!
# Opening a TCP socket

`ns_connect_tcp` and `ns_listen_tcp` ask `getaddrinfo()` for a list of
addresses and keep the socket of the first one on which every call that has
to succeed does.  What the system calls return is part of the addresses; the
calls are recorded in order.
-/

namespace NodeSignal

open CStrings Ledgers RingWindow

inductive AddressFamily where
  | inet
  | inet6
  | other
  deriving DecidableEq

/-- What is called on a new socket. -/
inductive SetupCall where
  /-- `setsockopt` with `SO_REUSEADDR` set. -/
  | reuseAddr
  /-- `setsockopt` with `IPV6_V6ONLY` cleared. -/
  | dualStack
  | connect (aiAddr : List UInt8)
  | bind (aiAddr : List UInt8)
  | listen (backlog : ℤ)
  deriving DecidableEq

/-- An address of the list, with what the calls for it return: the socket,
and the reason of each call that fails. -/
structure Addrinfo where
  aiFamily : AddressFamily
  aiAddr : List UInt8
  socketFd : NsSocket
  socketErrno : Errno
  failure : SetupCall → Option Errno
  closeFailure : Option Errno

/-- A call on a new socket; the address is given up if a required one
fails. -/
structure SetupStep where
  call : SetupCall
  required : Bool
  deriving DecidableEq

/-- What is asked of `getaddrinfo()`, besides a TCP stream of any family. -/
structure AddressQuery where
  host : Option (List UInt8)
  port : List UInt8
  passive : Bool

inductive NetCall where
  | getaddrinfo (query : AddressQuery) (found : Bool)
  | socket (aiFamily : AddressFamily) (socketFd : NsSocket)
  | setup (call : SetupCall) (socketFd : NsSocket)
  | close (socketFd : NsSocket)
  | freeaddrinfo

structure NetRun where
  errno : Errno
  calls : List NetCall

/-- A call changes `errno` if it fails. -/
def NetRun.make (net : NetRun) (call : NetCall) (failure : Option Errno) :
    NetRun :=
  ⟨failure.getD net.errno, net.calls ++ [call]⟩

/-- The calls on a new socket, up to a required one that fails. -/
def setUp (candidate : Addrinfo) : List SetupStep → NetRun → Bool × NetRun
  | [], net => (true, net)
  | step :: rest, net =>
      let failure := candidate.failure step.call
      let net := net.make (.setup step.call candidate.socketFd) failure
      if step.required && failure.isSome then (false, net)
      else setUp candidate rest net

/-- The loop over the addresses, with the calls on each new socket. -/
def tryAddrinfo (plan : Addrinfo → List SetupStep) :
    List Addrinfo → NetRun → NsSocket × NetRun
  | [], net => (nsInvalidSocket, net)
  | candidate :: rest, net =>
      if nsSocketIsValid candidate.socketFd then
        let created := net.make
          (.socket candidate.aiFamily candidate.socketFd) none
        let tried := setUp candidate (plan candidate) created
        if tried.1 then (candidate.socketFd, tried.2)
        else
          tryAddrinfo plan rest
            (tried.2.make (.close candidate.socketFd) candidate.closeFailure)
      else
        tryAddrinfo plan rest
          (net.make (.socket candidate.aiFamily candidate.socketFd)
            (some candidate.socketErrno))

def connectPlan (candidate : Addrinfo) : List SetupStep :=
  [⟨.connect candidate.aiAddr, true⟩]

def nsTryConnectAddrinfo (results : List Addrinfo) (net : NetRun) :
    NsSocket × NetRun :=
  tryAddrinfo connectPlan results net

def listenPlan (backlog : ℤ) (candidate : Addrinfo) : List SetupStep :=
  [⟨.reuseAddr, false⟩] ++
    (if candidate.aiFamily = .inet6 then [⟨.dualStack, false⟩] else []) ++
    [⟨.bind candidate.aiAddr, true⟩, ⟨.listen backlog, true⟩]

def nsTryBindListen (results : List Addrinfo) (backlog : ℤ) (net : NetRun) :
    NsSocket × NetRun :=
  tryAddrinfo (listenPlan backlog) results net

/-- The texts that the C library has for errors. -/
structure ErrorTexts where
  strerror : Errno → List UInt8
  gaiStrerror : ℤ → List UInt8

/-- `snprintf(buffer, buffer_size, "%s", string)`; the buffer is the array
behind the pointer, empty for `NULL`. -/
def writeText (buffer string : List UInt8) : List UInt8 :=
  if buffer = [] then buffer
  else blit buffer 0 ((snprintf buffer.length [string]).1 ++ [0])

def nsLastErrorString (texts : ErrorTexts) (errno : Errno)
    (buffer : List UInt8) : List UInt8 :=
  writeText buffer (texts.strerror errno)

/-- What `ns_connect_tcp` and `ns_listen_tcp` have in common, up to what they
try on the addresses.  The answer of `getaddrinfo()` is its status or the
list of addresses. -/
def openTcp (texts : ErrorTexts)
    (tryResults : List Addrinfo → NetRun → NsSocket × NetRun)
    (query : AddressQuery) (answer : Except ℤ (List Addrinfo))
    (errorBuffer : List UInt8) (net : NetRun) :
    NsSocket × List UInt8 × NetRun :=
  match answer with
  | .error status =>
      (nsInvalidSocket, writeText errorBuffer (texts.gaiStrerror status),
        net.make (.getaddrinfo query false) none)
  | .ok results =>
      let tried := tryResults results
        (net.make (.getaddrinfo query true) none)
      let errorBuffer :=
        if nsSocketIsValid tried.1 then errorBuffer
        else nsLastErrorString texts tried.2.errno errorBuffer
      (tried.1, errorBuffer, tried.2.make .freeaddrinfo none)

def nsConnectTcp (texts : ErrorTexts)
    (lookup : AddressQuery → Except ℤ (List Addrinfo))
    (host port errorBuffer : List UInt8) (net : NetRun) :
    NsSocket × List UInt8 × NetRun :=
  let query : AddressQuery := ⟨some host, port, false⟩
  openTcp texts nsTryConnectAddrinfo query (lookup query) errorBuffer net

def nsListenTcp (texts : ErrorTexts)
    (lookup : AddressQuery → Except ℤ (List Addrinfo))
    (port : List UInt8) (backlog : ℤ) (errorBuffer : List UInt8)
    (net : NetRun) : NsSocket × List UInt8 × NetRun :=
  let query : AddressQuery := ⟨none, port, true⟩
  openTcp texts (nsTryBindListen · backlog ·) query (lookup query)
    errorBuffer net

/-! ## What the calls hold -/

inductive NetResource where
  | addresses
  | socket (socketFd : NsSocket)
  deriving DecidableEq

def NetResource.Needs (_ _ : NetResource) : Prop := False

def NetCall.entry : NetCall → Option (Entry NetResource)
  | .getaddrinfo _ found =>
      if found then some (.acquired .addresses) else none
  | .socket _ socketFd =>
      if nsSocketIsValid socketFd then some (.acquired (.socket socketFd))
      else none
  | .setup _ _ => none
  | .close socketFd => some (.released (.socket socketFd))
  | .freeaddrinfo => some (.released .addresses)

def netEntries (calls : List NetCall) : List (Entry NetResource) :=
  calls.filterMap NetCall.entry

/-- The sockets that are open when the result is this one. -/
def openSockets (socketFd : NsSocket) : Set NetResource :=
  {resource | nsSocketIsValid socketFd ∧ resource = .socket socketFd}

/-! ## The address that is chosen -/

/-- Why a required call on the new socket fails. -/
def Addrinfo.obstacle (candidate : Addrinfo) (steps : List SetupStep) :
    Option Errno :=
  steps.findSome? fun step =>
    if step.required then candidate.failure step.call else none

/-- Why the address is given up. -/
def Addrinfo.reason (plan : Addrinfo → List SetupStep)
    (candidate : Addrinfo) : Option Errno :=
  if nsSocketIsValid candidate.socketFd then
    candidate.obstacle (plan candidate)
  else some candidate.socketErrno

def Addrinfo.viable (plan : Addrinfo → List SetupStep)
    (candidate : Addrinfo) : Bool :=
  (candidate.reason plan).isNone

/-- What `errno` is after the address is given up. -/
def Addrinfo.parting (plan : Addrinfo → List SetupStep)
    (candidate : Addrinfo) : Option Errno :=
  if nsSocketIsValid candidate.socketFd then
    candidate.closeFailure <|> candidate.reason plan
  else candidate.reason plan

def chosen (plan : Addrinfo → List SetupStep) (results : List Addrinfo) :
    NsSocket :=
  ((results.find? (Addrinfo.viable plan)).map Addrinfo.socketFd).getD
    nsInvalidSocket

/-- The text that says why there is no socket. -/
def complaint (texts : ErrorTexts) (plan : Addrinfo → List SetupStep)
    (errno : Errno) : Except ℤ (List Addrinfo) → List UInt8
  | .error status => texts.gaiStrerror status
  | .ok results => texts.strerror
      ((results.getLast?.bind (Addrinfo.parting plan)).getD errno)

/-- What comes of the addresses.  The socket is that of the first viable one,
and every other socket is closed. -/
structure OpensFirstViable (texts : ErrorTexts)
    (plan : Addrinfo → List SetupStep) (query : AddressQuery)
    (answer : Except ℤ (List Addrinfo)) (errorBuffer : List UInt8)
    (net : NetRun) (result : NsSocket × List UInt8 × NetRun) : Prop where
  socket : result.1 = chosen plan (answer.toOption.getD [])
  message : result.2.1 =
    if nsSocketIsValid result.1 then errorBuffer
    else writeText errorBuffer (complaint texts plan net.errno answer)
  calls : ∃ made, result.2.2.calls = net.calls ++ made ∧
    Accounts NetResource.Needs ∅ (netEntries made) (openSockets result.1)
  prepared : ∀ candidate, (answer.toOption.getD []).find?
      (Addrinfo.viable plan) = some candidate →
    ∃ before, result.2.2.calls = before ++
      .socket candidate.aiFamily candidate.socketFd ::
        (plan candidate).map (fun step =>
          .setup step.call candidate.socketFd) ++ [.freeaddrinfo]
  untried : ∀ front candidate rest,
    answer = .ok (front ++ candidate :: rest) → candidate.viable plan →
      result = openTcp texts (tryAddrinfo plan) query
        (.ok (front ++ [candidate])) errorBuffer net

section Setup

variable {plan : Addrinfo → List SetupStep} {candidate : Addrinfo}
  (net : NetRun)

theorem setUp_fst (steps : List SetupStep) :
    (setUp candidate steps net).1 = (candidate.obstacle steps).isNone := by
  induction steps generalizing net with
  | nil => rfl
  | cons step rest ih =>
      unfold setUp Addrinfo.obstacle
      rw [List.findSome?_cons]
      cases hrequired : step.required <;>
        cases hfailure : candidate.failure step.call <;>
        simp [ih, Addrinfo.obstacle]

theorem setUp_errno {steps : List SetupStep} {errno : Errno}
    (hobstacle : candidate.obstacle steps = some errno) :
    (setUp candidate steps net).2.errno = errno := by
  induction steps generalizing net with
  | nil => cases hobstacle
  | cons step rest ih =>
      unfold Addrinfo.obstacle at hobstacle
      rw [List.findSome?_cons] at hobstacle
      unfold setUp
      cases hrequired : step.required <;>
        cases hfailure : candidate.failure step.call <;>
        simp_all [Addrinfo.obstacle, NetRun.make]

/-- No call of the setup opens or closes a socket. -/
theorem setUp_calls (candidate : Addrinfo) (net : NetRun)
    (steps : List SetupStep) :
    ∃ made, (setUp candidate steps net).2.calls =
        net.calls ++ made.map (fun step =>
          .setup step.call candidate.socketFd) ∧
      (candidate.obstacle steps = none → made = steps) := by
  induction steps generalizing net with
  | nil => exact ⟨[], (List.append_nil _).symm, fun _ => rfl⟩
  | cons step rest ih =>
      unfold setUp
      dsimp only
      split_ifs with hfails
      · refine ⟨[step], rfl, ?_⟩
        intro hnone
        rw [Bool.and_eq_true, Option.isSome_iff_exists] at hfails
        obtain ⟨hrequired, errno, hfailure⟩ := hfails
        unfold Addrinfo.obstacle at hnone
        rw [List.findSome?_cons, hrequired, if_pos rfl, hfailure] at hnone
        cases hnone
      · obtain ⟨made, hcalls, hall⟩ := ih (net.make
          (.setup step.call candidate.socketFd)
          (candidate.failure step.call))
        refine ⟨step :: made, ?_, ?_⟩
        · rw [hcalls]
          simp [NetRun.make]
        · intro hnone
          rw [hall]
          unfold Addrinfo.obstacle at hnone ⊢
          rw [List.findSome?_eq_none_iff] at hnone ⊢
          exact fun later hlater => hnone later (List.mem_cons_of_mem _ hlater)

@[simp] theorem netEntries_append (first later : List NetCall) :
    netEntries (first ++ later) = netEntries first ++ netEntries later :=
  List.filterMap_append

theorem netEntries_setup (steps : List SetupStep) (socketFd : NsSocket) :
    netEntries (steps.map fun step => .setup step.call socketFd) = [] := by
  induction steps with
  | nil => rfl
  | cons step rest ih => exact ih

/-- The address list is held while sockets come and go. -/
theorem accounts_socket {socketFd : NsSocket}
    (hvalid : nsSocketIsValid socketFd) (family : AddressFamily) :
    Accounts NetResource.Needs {.addresses}
      (netEntries [.socket family socketFd])
      (insert .addresses (openSockets socketFd)) := by
  have hentries : netEntries [.socket family socketFd] =
      [.acquired (.socket socketFd)] := by
    simp [netEntries, NetCall.entry, hvalid]
  have hopen : insert .addresses (openSockets socketFd) =
      insert (.socket socketFd) {NetResource.addresses} := by
    ext resource
    simp [openSockets, hvalid, or_comm]
  rw [hentries, hopen]
  exact .acquired (by simp) fun other hneed => hneed.elim

theorem accounts_closed {resource : NetResource} {held : Set NetResource}
    (hheld : resource ∈ held) :
    Accounts NetResource.Needs held [.released resource]
      (held \ {resource}) :=
  .released hheld fun _ _ hneed => hneed

theorem openSockets_of_invalid {socketFd : NsSocket}
    (hinvalid : nsSocketIsValid socketFd = false) :
    openSockets socketFd = ∅ := by
  ext resource
  simp [openSockets, hinvalid]

/-! ## One address -/

theorem tryAddrinfo_viable (hviable : candidate.viable plan) :
    ∃ net', (∀ rest, tryAddrinfo plan (candidate :: rest) net =
        (candidate.socketFd, net')) ∧
      net'.calls = net.calls ++
        .socket candidate.aiFamily candidate.socketFd ::
          (plan candidate).map fun step =>
            .setup step.call candidate.socketFd := by
  unfold Addrinfo.viable Addrinfo.reason at hviable
  split_ifs at hviable with hvalid
  · let created := net.make
      (.socket candidate.aiFamily candidate.socketFd) none
    have hnone : candidate.obstacle (plan candidate) = none := by
      simpa using hviable
    have hready : (setUp candidate (plan candidate) created).1 = true := by
      rw [setUp_fst, hnone]
      rfl
    obtain ⟨made, hcalls, hall⟩ :=
      setUp_calls candidate created (plan candidate)
    refine ⟨(setUp candidate (plan candidate) created).2, ?_, ?_⟩
    · intro rest
      rw [tryAddrinfo, if_pos hvalid]
      exact if_pos hready
    · rw [hcalls, hall hnone]
      simp [created, NetRun.make]
  · cases hviable

theorem tryAddrinfo_not_viable (hviable : candidate.viable plan = false) :
    ∃ net', (∀ rest, tryAddrinfo plan (candidate :: rest) net =
        tryAddrinfo plan rest net') ∧
      candidate.parting plan = some net'.errno ∧
      ∃ made, net'.calls = net.calls ++ made ∧
        Accounts NetResource.Needs {.addresses} (netEntries made)
          {.addresses} := by
  unfold Addrinfo.viable Addrinfo.reason at hviable
  split_ifs at hviable with hvalid
  · let created := net.make
      (.socket candidate.aiFamily candidate.socketFd) none
    let tried := setUp candidate (plan candidate) created
    obtain ⟨errno, hobstacle⟩ : ∃ errno,
        candidate.obstacle (plan candidate) = some errno := by
      rw [← Option.isSome_iff_exists, ← Option.isNone_eq_false_iff]
      exact hviable
    have hgiven : tried.1 = false := by
      rw [setUp_fst, hobstacle]
      rfl
    refine ⟨tried.2.make (.close candidate.socketFd)
      candidate.closeFailure, ?_, ?_, ?_⟩
    · intro rest
      rw [tryAddrinfo, if_pos hvalid]
      exact if_neg (Bool.eq_false_iff.mp hgiven)
    · have hafter : tried.2.errno = errno := setUp_errno _ hobstacle
      unfold Addrinfo.parting Addrinfo.reason NetRun.make
      rw [if_pos hvalid, if_pos hvalid, hobstacle, hafter]
      cases candidate.closeFailure with
      | none => rfl
      | some closeErrno => rfl
    · obtain ⟨made, hcalls, -⟩ :=
        setUp_calls candidate created (plan candidate)
      let setups : List NetCall := made.map fun step =>
        .setup step.call candidate.socketFd
      refine ⟨[.socket candidate.aiFamily candidate.socketFd] ++ setups ++
        [.close candidate.socketFd], ?_, ?_⟩
      · unfold NetRun.make
        rw [hcalls]
        simp [created, NetRun.make, setups]
      · rw [netEntries_append, netEntries_append, netEntries_setup,
          List.append_nil]
        refine (accounts_socket hvalid candidate.aiFamily).append ?_
        have hclosed : insert .addresses (openSockets candidate.socketFd) \
            {.socket candidate.socketFd} = {NetResource.addresses} := by
          ext resource
          cases resource <;> simp [openSockets, hvalid]
        rw [← hclosed]
        refine accounts_closed (Set.mem_insert_of_mem _ ?_)
        exact ⟨hvalid, rfl⟩
  · have hinvalid : nsSocketIsValid candidate.socketFd = false := by
      simpa using hvalid
    refine ⟨net.make (.socket candidate.aiFamily candidate.socketFd)
      (some candidate.socketErrno), ?_, ?_, ?_⟩
    · intro rest
      rw [tryAddrinfo, hinvalid, if_neg Bool.false_ne_true]
    · unfold Addrinfo.parting Addrinfo.reason
      rw [if_neg hvalid, if_neg hvalid]
      rfl
    · refine ⟨[.socket candidate.aiFamily candidate.socketFd], rfl, ?_⟩
      have hentries : netEntries
          [.socket candidate.aiFamily candidate.socketFd] = [] := by
        simp [netEntries, NetCall.entry, hinvalid]
      rw [hentries]
      exact .nil _

/-! ## The list of addresses -/

theorem Addrinfo.viable.valid (hviable : candidate.viable plan) :
    nsSocketIsValid candidate.socketFd := by
  unfold viable reason at hviable
  split_ifs at hviable with hvalid
  · exact hvalid
  · cases hviable

theorem chosen_valid_iff (results : List Addrinfo) :
    nsSocketIsValid (chosen plan results) ↔
      (results.find? (Addrinfo.viable plan)).isSome := by
  unfold chosen
  cases hfound : results.find? (Addrinfo.viable plan) with
  | none => simp [nsSocketIsValid]
  | some candidate =>
      have hviable := List.find?_some hfound
      simpa using Addrinfo.viable.valid hviable

theorem tryAddrinfo_socket (plan : Addrinfo → List SetupStep)
    (net : NetRun) (results : List Addrinfo) :
    (tryAddrinfo plan results net).1 = chosen plan results := by
  induction results generalizing net with
  | nil => rfl
  | cons candidate rest ih =>
      unfold chosen
      rw [List.find?_cons]
      cases hviable : candidate.viable plan with
      | true =>
          obtain ⟨net', heq, -⟩ := tryAddrinfo_viable net hviable
          rw [heq rest]
          rfl
      | false =>
          obtain ⟨net', heq, -⟩ :=
            tryAddrinfo_not_viable net hviable
          rw [heq rest, ih]
          rfl

/-- The loop stops at a viable address. -/
theorem tryAddrinfo_stops (hviable : candidate.viable plan)
    (front rest : List Addrinfo) :
    tryAddrinfo plan (front ++ candidate :: rest) net =
      tryAddrinfo plan (front ++ [candidate]) net := by
  induction front generalizing net with
  | nil =>
      obtain ⟨net', heq, -⟩ := tryAddrinfo_viable net hviable
      rw [List.nil_append, List.nil_append, heq, heq]
  | cons first front ih =>
      rw [List.cons_append, List.cons_append]
      cases hfirst : first.viable plan with
      | true =>
          obtain ⟨net', heq, -⟩ := tryAddrinfo_viable net hfirst
          rw [heq, heq]
      | false =>
          obtain ⟨net', heq, -⟩ := tryAddrinfo_not_viable net hfirst
          rw [heq, heq, ih]

theorem tryAddrinfo_errno {results : List Addrinfo}
    (hnone : results.find? (Addrinfo.viable plan) = none) :
    (tryAddrinfo plan results net).2.errno =
      (results.getLast?.bind (Addrinfo.parting plan)).getD net.errno := by
  induction results generalizing net with
  | nil => rfl
  | cons candidate rest ih =>
      rw [List.find?_cons] at hnone
      cases hviable : candidate.viable plan with
      | true => simp [hviable] at hnone
      | false =>
          obtain ⟨net', heq, hparting, -⟩ :=
            tryAddrinfo_not_viable net hviable
          rw [hviable] at hnone
          rw [heq, ih net' hnone]
          cases hlast : rest.getLast? with
          | none =>
              rw [List.getLast?_eq_none_iff.mp hlast,
                List.getLast?_singleton, Option.bind_some, hparting]
              rfl
          | some last =>
              have hmem := List.mem_of_getLast? hlast
              have hgiven : last.viable plan = false := by
                have hall := List.find?_eq_none.mp hnone
                simpa using hall last hmem
              obtain ⟨_, -, hlastErrno, -⟩ :=
                tryAddrinfo_not_viable net' hgiven
              rw [List.getLast?_cons, hlast, Option.getD_some,
                Option.bind_some, hlastErrno]
              rfl

/-- Every socket but the one returned is closed. -/
theorem tryAddrinfo_calls (plan : Addrinfo → List SetupStep)
    (net : NetRun) (results : List Addrinfo) :
    ∃ made, (tryAddrinfo plan results net).2.calls = net.calls ++ made ∧
      Accounts NetResource.Needs {.addresses} (netEntries made)
        (insert .addresses (openSockets (chosen plan results))) ∧
      ∀ candidate, results.find? (Addrinfo.viable plan) = some candidate →
        ∃ before, made = before ++
          .socket candidate.aiFamily candidate.socketFd ::
            (plan candidate).map fun step =>
              .setup step.call candidate.socketFd := by
  induction results generalizing net with
  | nil =>
      have hclosed : openSockets (chosen plan []) = ∅ :=
        openSockets_of_invalid rfl
      refine ⟨[], (List.append_nil _).symm, ?_, by simp⟩
      rw [hclosed, insert_empty_eq]
      exact .nil _
  | cons candidate rest ih =>
      cases hviable : candidate.viable plan with
      | true =>
          obtain ⟨net', heq, hcalls⟩ :=
            tryAddrinfo_viable net hviable
          have hvalid := Addrinfo.viable.valid hviable
          have hchosen : chosen plan (candidate :: rest) =
              candidate.socketFd := by
            unfold chosen
            rw [List.find?_cons, hviable]
            rfl
          rw [heq, hchosen]
          refine ⟨_, hcalls, ?_, ?_⟩
          · have hentries := netEntries_append
              [.socket candidate.aiFamily candidate.socketFd]
              ((plan candidate).map fun step =>
                .setup step.call candidate.socketFd)
            rw [List.singleton_append, netEntries_setup, List.append_nil]
              at hentries
            rw [hentries]
            exact accounts_socket hvalid candidate.aiFamily
          · intro other hother
            rw [List.find?_cons, hviable] at hother
            obtain rfl : candidate = other := by simpa using hother
            exact ⟨[], rfl⟩
      | false =>
          obtain ⟨net', heq, -, first, hfirst, haccounts⟩ :=
            tryAddrinfo_not_viable net hviable
          obtain ⟨later, hlater, hrest, hprepared⟩ := ih net'
          have hfind : (candidate :: rest).find? (Addrinfo.viable plan) =
              rest.find? (Addrinfo.viable plan) := by
            rw [List.find?_cons, hviable]
          have hchosen : chosen plan (candidate :: rest) =
              chosen plan rest := by
            unfold chosen
            rw [hfind]
          rw [heq, hchosen, hfind]
          refine ⟨first ++ later, ?_, ?_, ?_⟩
          · rw [hlater, hfirst, List.append_assoc]
          · rw [netEntries_append]
            exact haccounts.append hrest
          · intro other hother
            obtain ⟨before, rfl⟩ := hprepared other hother
            exact ⟨first ++ before, (List.append_assoc _ _ _).symm⟩

end Setup

/-! ## Both functions -/

/-- The address list is freed exactly when there is one. -/
theorem openTcp_opens (texts : ErrorTexts)
    (plan : Addrinfo → List SetupStep) (query : AddressQuery)
    (answer : Except ℤ (List Addrinfo)) (errorBuffer : List UInt8)
    (net : NetRun) :
    OpensFirstViable texts plan query answer errorBuffer net
      (openTcp texts (tryAddrinfo plan) query answer errorBuffer net) := by
  cases answer with
  | error status =>
      refine ⟨rfl, rfl, ?_, ?_, ?_⟩
      · refine ⟨[.getaddrinfo query false], rfl, ?_⟩
        change Accounts _ ∅ [] (openSockets nsInvalidSocket)
        rw [openSockets_of_invalid rfl]
        exact .nil ∅
      · intro candidate hfound
        cases hfound
      · intro front candidate rest heq
        cases heq
  | ok results =>
      let asked := net.make (.getaddrinfo query true) none
      have hsocket := tryAddrinfo_socket plan asked results
      obtain ⟨made, hcalls, haccounts, hprepared⟩ :=
        tryAddrinfo_calls plan asked results
      have hasked : asked.calls = net.calls ++ [.getaddrinfo query true] := rfl
      rw [hasked, List.append_assoc] at hcalls
      refine ⟨hsocket, ?_, ?_, ?_, ?_⟩
      · change (if nsSocketIsValid (tryAddrinfo plan results asked).1 then
            errorBuffer
          else nsLastErrorString texts _ errorBuffer) =
          if nsSocketIsValid (tryAddrinfo plan results asked).1 then
            errorBuffer
          else writeText errorBuffer _
        split_ifs with hvalid
        · rfl
        · rw [hsocket, chosen_valid_iff, Option.not_isSome_iff_eq_none]
            at hvalid
          rw [tryAddrinfo_errno asked hvalid]
          rfl
      · refine ⟨[.getaddrinfo query true] ++ made ++ [.freeaddrinfo],
          ?_, ?_⟩
        · change (tryAddrinfo plan results asked).2.calls ++ _ = _
          rw [hcalls, List.append_assoc, List.append_assoc]
        · change Accounts _ _ _
            (openSockets (tryAddrinfo plan results asked).1)
          have hfreed : insert .addresses
                (openSockets (chosen plan results)) \ {.addresses} =
              openSockets (chosen plan results) := by
            ext resource
            cases resource <;> simp [openSockets]
          rw [netEntries_append, netEntries_append, hsocket, ← hfreed]
          have hasks : Accounts NetResource.Needs ∅
              (netEntries [.getaddrinfo query true])
              (insert .addresses ∅) :=
            .acquired (Set.notMem_empty _) fun other hneed => hneed.elim
          rw [insert_empty_eq] at hasks
          exact (hasks.append haccounts).append
            (accounts_closed (Set.mem_insert _ _))
      · intro candidate hfound
        obtain ⟨before, rfl⟩ := hprepared candidate hfound
        refine ⟨net.calls ++ .getaddrinfo query true :: before, ?_⟩
        change (tryAddrinfo plan results asked).2.calls ++ _ = _
        rw [hcalls]
        simp
      · intro front candidate rest heq hviable
        obtain rfl : results = front ++ candidate :: rest := by
          injection heq
        unfold openTcp
        dsimp only
        rw [tryAddrinfo_stops _ hviable]

theorem tcp_opens_first_viable (texts : ErrorTexts)
    (lookup : AddressQuery → Except ℤ (List Addrinfo))
    (host port errorBuffer : List UInt8) (backlog : ℤ) (net : NetRun) :
    OpensFirstViable texts connectPlan ⟨some host, port, false⟩
        (lookup ⟨some host, port, false⟩) errorBuffer net
        (nsConnectTcp texts lookup host port errorBuffer net) ∧
      OpensFirstViable texts (listenPlan backlog) ⟨none, port, true⟩
        (lookup ⟨none, port, true⟩) errorBuffer net
        (nsListenTcp texts lookup port backlog errorBuffer net) :=
  ⟨openTcp_opens .., openTcp_opens ..⟩

end NodeSignal
