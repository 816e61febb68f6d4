import ContainerClients.Proofs.Connection
import ContainerClients.Session

/-!
# Names of new containers do not collide

All launchers that are given no counter of their own share one, and every call of such a launcher
draws the next number, whatever comes of the call.  So the numbers of a run are consecutive.  The
number stands at the end of the container's name, behind the last `-`, where neither the base name
nor stripping reaches it: names with different numbers differ.

* `SharedCall` — a call of a launcher that draws from the shared counter.
* `World.sharedCalls`, `World.sharedCallsAll` — the calls of a step and of a run, in order.
* `Numbered` — calls that draw consecutive numbers.
* `numbered_perform`, `numbered_performAll` — what a step and a run draw.
* `Identity.suffix_eq_of_stripped` — a stripped name still tells the number.
* **`container_names_nodup`** — in a run from the start, the calls draw 1, 2, 3, …, nothing else
  moves the counter, and the names that connections give to their containers are distinct.
-/

namespace ContainerClients.Number

/-! ## Digits -/

/-- The decimal digits of a number are digits. -/
lemma toNat_of_mem_digits {n : Nat} {c : Char} (h : c ∈ digits n) :
    48 ≤ c.toNat ∧ c.toNat < 58 := by
  induction n using Nat.strongRecOn with
  | ind n ih =>
      rw [digits] at h
      split_ifs at h with hn
      · rw [List.mem_singleton] at h
        rw [h, toNat_digitChar hn]
        omega
      · rcases List.mem_append.1 h with h | h
        · exact ih (n / 10) (by omega) h
        · rw [List.mem_singleton] at h
          rw [h, toNat_digitChar (Nat.mod_lt n (by omega))]
          omega

/-- Numbers with the same digits are equal. -/
lemma digits_injective : Function.Injective digits := by
  intro m n h
  rw [← value_digits m, h, value_digits]

/-- No digit is blank. -/
lemma isBlank_of_mem_digits {n : Nat} {c : Char} (h : c ∈ digits n) : Text.isBlank c = false := by
  have hc := toNat_of_mem_digits h
  rw [Bool.eq_false_iff]
  intro hblank
  simp only [Text.isBlank, Text.CodePoints.has_iff, Text.blanks, List.mem_cons, List.not_mem_nil,
    or_false, exists_eq_or_imp, exists_eq_left] at hblank
  omega

/-- No digit is a sign. -/
lemma minus_not_mem_digits (n : Nat) : '-' ∉ digits n := by
  intro h
  have hc := toNat_of_mem_digits h
  have hminus : '-'.toNat = 45 := rfl
  omega

lemma ofInt_of_nonneg {i : Int} (h : 0 ≤ i) : ofInt i = digits i.natAbs :=
  if_neg (Int.not_lt.2 h)

end ContainerClients.Number

namespace ContainerClients.Container

open ContainerClients.Text

/-! ## What is left of a name -/

/-- **Stripping reaches no further than the base name.** -/
lemma Identity.toList_stripped_fullName {identity : Identity} (h : 0 ≤ identity.suffix) :
    (stripped identity.fullName).toList
      = stripStart identity.base.shown.toList ++ '-' :: Number.digits identity.suffix.natAbs := by
  have hname : identity.fullName.toList
      = identity.base.shown.toList ++ '-' :: Number.digits identity.suffix.natAbs := by
    simp only [fullName, Number.text, Number.ofInt_of_nonneg h, String.toList_append,
      String.toList_ofList, List.append_assoc]
    rfl
  have hdigits : endsBlank (Number.digits identity.suffix.natAbs) = false :=
    endsBlank_eq_false_iff.2 fun d hd =>
      Number.isBlank_of_mem_digits (List.mem_of_getLast? hd)
  rw [toList_stripped, hname, strip_append_cons (by decide), stripEnd_eq_self hdigits]

/-- Something is left of every name. -/
lemma Identity.stripped_fullName_ne {identity : Identity} (h : 0 ≤ identity.suffix) :
    stripped identity.fullName ≠ "" := by
  intro he
  have hlist := toList_stripped_fullName h
  rw [he] at hlist
  exact absurd hlist.symm (by simp)

/-- **A stripped name tells the number**, whatever the base names are. -/
theorem Identity.suffix_eq_of_stripped {a b : Identity} (ha : 0 ≤ a.suffix) (hb : 0 ≤ b.suffix)
    (h : stripped a.fullName = stripped b.fullName) : a.suffix = b.suffix := by
  have hcut := congrArg (cutLast '-') (congrArg String.toList h)
  rw [toList_stripped_fullName ha, toList_stripped_fullName hb,
    cutLast_append_cons _ (Number.minus_not_mem_digits _),
    cutLast_append_cons _ (Number.minus_not_mem_digits _), Option.some.injEq, Prod.mk.injEq] at hcut
  have habs := Number.digits_injective hcut.2
  omega

end ContainerClients.Container

namespace ContainerClients

open ContainerClients.Container ContainerClients.CommandLine ContainerClients.Text

/-! ## Calls that draw from the shared counter -/

/-- **A call of a launcher that numbers its containers by the shared counter.** -/
structure SharedCall where
  /-- the runtime that the launcher is given -/
  runtime : Datum
  /-- the environment of that moment -/
  env : Environment
  /-- where the counters stand at that moment -/
  counters : Counters
  /-- what the launcher is asked -/
  request : LaunchRequest

namespace SharedCall

/-- What comes of the call. -/
def launched (call : SharedCall) : Launched :=
  (Launcher.fresh .shared call.runtime).launch call.env call.counters call.request

/-- The words of the connection that makes the call. -/
def argv (call : SharedCall) : Except Failure (List String) :=
  call.launched.answer.bind Command.words

/-- The identity of the container, with the number that the call draws. -/
def identity (call : SharedCall) : Identity :=
  ⟨call.request.containerName, (call.counters.draw .shared).1⟩

/-- The name of the container, as it stands among the words of the connection. -/
def name (call : SharedCall) : String := stripped call.identity.fullName

end SharedCall

/-- The call that asking a launcher is, if it draws from the shared counter. -/
def Container.Launcher.sharedCalls (launcher : Launcher) (env : Environment) (counters : Counters)
    (request : LaunchRequest) : List SharedCall :=
  match launcher with
  | .fresh .shared runtime => [⟨runtime, env, counters, request⟩]
  | _ => []

/-- The calls that asking a launcher several times comes to. -/
def Container.Launcher.sharedCallsMany (launcher : Launcher) (env : Environment)
    (counters : Counters) (request : LaunchRequest) : Nat → List SharedCall
  | 0 => []
  | times + 1 =>
    let first := launcher.launch env counters request
    launcher.sharedCalls env counters request ++
      match first.answer with
      | .error _ => []
      | .ok _ => sharedCallsMany launcher env first.counters request times

/-- The call that connecting a client makes, if any. -/
def Client.sharedCalls (client : Client) (env : Environment) (counters : Counters) :
    List SharedCall :=
  match client.connection with
  | .launched launcher request => launcher.sharedCalls env counters request
  | _ => []

namespace CommandLine

/-- The call that connecting a client by the command line makes, if any. -/
def connectionCalls (machine : Machine) (stock : Stock) (choice : CatalogChoice)
    (launcher : Launcher) (id : String) : List SharedCall :=
  match fillStock machine stock choice launcher with
  | (.error _, _, _) => []
  | (.ok _, stock, _) =>
    match stock.holdings.registry.require (.text id) with
    | .error _ => []
    | .ok client => client.sharedCalls machine.around.env stock.counters

/-- The call that an invocation makes, if any. -/
def Invocation.sharedCalls (invocation : Invocation) (machine : Machine) (stock : Stock) :
    List SharedCall :=
  let launcher (attach : Bool) := launcherFor attach invocation.runtime
  match invocation.task with
  | .command choice id attach _ => connectionCalls machine stock choice (launcher attach) id
  | .run choice id attach => connectionCalls machine stock choice (launcher attach) id
  | _ => []

end CommandLine

/-- **The calls that a step makes**, in order. -/
def World.sharedCalls (world : World) : Step → List SharedCall
  | .connect subject =>
    match world.find subject with
    | .ok client => client.sharedCalls world.around.env world.counters
    | .error _ => []
  | .launch choice request times =>
    let world := world.choose choice
    choice.launcher.sharedCallsMany world.around.env world.counters request times
  | .invoke arguments probe input =>
    match Invocation.parse arguments with
    | .error _ => []
    | .ok invocation =>
      invocation.sharedCalls (world.machine probe input) ⟨world.holdings, world.counters⟩
  | _ => []

/-- **The calls that a run makes**, in order. -/
def World.sharedCallsAll (world : World) : List Step → List SharedCall
  | [] => []
  | step :: rest => world.sharedCalls step ++ (world.perform step).world.sharedCallsAll rest

/-- A step that takes numbers of the shared counter by itself, without a launcher. -/
def Step.drawsDirectly : Step → Bool
  | .nextIdentity _ .shared _ => true
  | .nextMany .shared _ _ => true
  | _ => false

/-! ## Consecutive numbers -/

/-- **Calls that draw consecutive numbers**, from `start` to the one before `stop`. -/
def Numbered (start : Int) : List SharedCall → Int → Prop
  | [], stop => stop = start
  | call :: rest, stop => call.identity.suffix = start ∧ Numbered (start + 1) rest stop

namespace Numbered

variable {start middle stop : Int} {calls others : List SharedCall}

/-- Consecutive numbers can be drawn in two parts. -/
lemma append (h : Numbered start calls middle) (h' : Numbered middle others stop) :
    Numbered start (calls ++ others) stop := by
  induction calls generalizing start with
  | nil =>
      obtain rfl : middle = start := h
      exact h'
  | cons call rest ih => exact ⟨h.1, ih h.2⟩

/-- The counter moves on by the number of calls. -/
lemma stop_eq (h : Numbered start calls stop) : stop = start + calls.length := by
  induction calls generalizing start with
  | nil =>
      obtain rfl : stop = start := h
      simp
  | cons call rest ih =>
      rw [ih h.2, List.length_cons]
      omega

/-- Each call draws the number of its place. -/
lemma suffix_eq (h : Numbered start calls stop) (k : Nat) (hk : k < calls.length) :
    calls[k].identity.suffix = start + k := by
  induction calls generalizing start k with
  | nil => exact absurd hk (Nat.not_lt_zero k)
  | cons call rest ih =>
      cases k with
      | zero => rw [List.getElem_cons_zero, h.1, Int.natCast_zero, Int.add_zero]
      | succ k =>
          rw [List.getElem_cons_succ, ih h.2 k (Nat.lt_of_succ_lt_succ hk)]
          omega

end Numbered

/-! ## What launchers, clients and invocations draw -/

variable {env : Environment} {counters : Counters}

/-- Mentioning a counter leaves the shared one alone. -/
@[simp] lemma Container.Counters.mention_shared (counters : Counters) (counter : CounterName)
    (start : Int) : (counters.mention counter start).shared = counters.shared := by
  cases counter with
  | shared => rfl
  | named name =>
      rw [Counters.mention]
      split <;> rfl

/-- A launcher draws for the call that asking it is, and for nothing else. -/
lemma numbered_launch (launcher : Launcher) (request : LaunchRequest) :
    Numbered counters.shared (launcher.sharedCalls env counters request)
      (launcher.launch env counters request).counters.shared := by
  cases launcher with
  | fresh counter runtime =>
      rw [Launcher.counters_fresh]
      cases counter with
      | shared => exact ⟨rfl, rfl⟩
      | named name => exact Counters.draw_named_shared counters name
  | attach runtime => exact congrArg Counters.shared (Launcher.counters_attach runtime)
  | own answer => rfl

lemma numbered_launchMany (launcher : Launcher) (request : LaunchRequest) (times : Nat) :
    Numbered counters.shared (launcher.sharedCallsMany env counters request times)
      (launcher.launchMany env counters request times).counters.shared := by
  induction times generalizing counters with
  | zero => rfl
  | succ times ih =>
      have hfirst : Numbered counters.shared (launcher.sharedCalls env counters request)
          (launcher.launch env counters request).counters.shared :=
        numbered_launch launcher request
      rw [Launcher.sharedCallsMany, Launcher.launchMany]
      cases (launcher.launch env counters request).answer with
      | error failure =>
          rw [List.append_nil]
          exact hfirst
      | ok answer => exact hfirst.append ih

/-- Connecting draws for the call that it makes, and for nothing else. -/
lemma numbered_connect (client : Client) :
    Numbered counters.shared (client.sharedCalls env counters)
      (client.connect env counters).counters.shared := by
  rw [Client.connect, Client.sharedCalls]
  cases client.connection with
  | own words => rfl
  | command ask => rfl
  | launched launcher request => exact numbered_launch launcher request

/-- The words of a connection that makes a call are those of the call. -/
lemma argv_of_sharedCalls {client : Client} {call : SharedCall}
    (h : client.sharedCalls env counters = [call]) :
    (client.connect env counters).argv = call.argv := by
  rw [Client.sharedCalls] at h
  rw [Client.connect]
  cases hconnection : client.connection with
  | own words | command ask =>
      rw [hconnection] at h
      contradiction
  | launched launcher request =>
      rw [hconnection] at h
      cases launcher with
      | fresh counter runtime =>
          cases counter with
          | shared =>
              obtain rfl := List.singleton_inj.1 h
              rfl
          | named name => contradiction
      | attach runtime => contradiction
      | own answer => contradiction

/-- Filling the registry leaves the counters where they are. -/
lemma counters_fillStock (machine : Machine) (stock : Stock) (choice : CatalogChoice)
    (launcher : Launcher) :
    (fillStock machine stock choice launcher).2.1.counters = stock.counters := by
  rw [fillStock]
  split <;> rfl

/-- Connecting by the command line draws for the call that it makes, and for nothing else. -/
lemma numbered_connectClient (machine : Machine) (stock : Stock) (choice : CatalogChoice)
    (launcher : Launcher) (id : String) :
    Numbered stock.counters.shared (connectionCalls machine stock choice launcher id)
      (connectClient machine stock choice launcher id).2.1.counters.shared := by
  have hfill := counters_fillStock machine stock choice launcher
  rw [connectionCalls, connectClient]
  generalize fillStock machine stock choice launcher = filled at hfill ⊢
  obtain ⟨report, filled, log⟩ := filled
  rw [← show filled.counters = stock.counters from hfill]
  cases report with
  | error failure => rfl
  | ok report =>
      dsimp only
      cases filled.holdings.registry.require (.text id) with
      | error failure => rfl
      | ok client => exact numbered_connect client

/-- Listing the clients leaves the counters where they are. -/
lemma counters_listClients (machine : Machine) (stock : Stock) (choice : CatalogChoice)
    (launcher : Launcher) (asJson : Bool) :
    (listClients machine stock choice launcher asJson).stock.counters = stock.counters := by
  have hstock : (stockClients machine stock choice launcher).2.1.counters = stock.counters := by
    rw [stockClients]
    split
    · exact counters_fillStock machine stock choice launcher
    · rfl
  exact hstock

/-- **An invocation draws for the call that it makes**, and for nothing else. -/
lemma numbered_execute (invocation : Invocation) (machine : Machine) (stock : Stock) :
    Numbered stock.counters.shared (invocation.sharedCalls machine stock)
      (invocation.execute machine stock).stock.counters.shared := by
  rw [Invocation.sharedCalls, Invocation.execute]
  cases invocation.task with
  | showHelp => rfl
  | clients choice asJson =>
      exact congrArg Counters.shared (counters_listClients machine stock choice _ asJson)
  | command choice id attach asJson => exact numbered_connectClient machine stock choice _ id
  | translate choice path toHost => rfl
  | run choice id attach => exact numbered_connectClient machine stock choice _ id
  | doctor asJson =>
      change (checkRuntime machine stock invocation.runtime asJson).stock.counters.shared = _
      rw [checkRuntime]
      split
      · rfl
      · split <;> rfl

/-! ## What steps and runs draw -/

/-- Mentioning the counter of a launcher leaves the shared one alone. -/
@[simp] lemma World.counters_choose (world : World) (choice : LauncherChoice) :
    (world.choose choice).counters.shared = world.counters.shared := by
  obtain ⟨launcher, start⟩ := choice
  cases launcher with
  | fresh counter runtime => exact Counters.mention_shared world.counters counter start
  | attach runtime => rfl
  | own answer => rfl

/-- Numbers of a counter by name leave the shared one alone. -/
lemma Container.Counters.drawMany_named_shared (counters : Counters) (name : String)
    (count : Nat) : (counters.drawMany (.named name) count).2.shared = counters.shared := by
  induction count generalizing counters with
  | zero => rfl
  | succ count ih => exact (ih _).trans (Counters.draw_named_shared counters name)

/-- **A step draws for the calls that it makes**, and for nothing else. -/
theorem numbered_perform {step : Step} (world : World) (h : step.drawsDirectly = false) :
    Numbered world.counters.shared (world.sharedCalls step)
      (world.perform step).world.counters.shared := by
  cases step with
  | registerDirect id command extensions priority slot =>
      change (world.registerDirect slot _).world.counters.shared = _
      cases Client.directNamed id command extensions priority with
      | error failure => rfl
      | ok client => exact congrArg Counters.shared (World.counters_keep _ slot client)
  | registerContainer arguments choice slot =>
      change ((world.choose choice).registerContainer slot choice.launcher
        arguments).world.counters.shared = _
      rw [World.registerContainer]
      split
      · exact World.counters_choose world choice
      · exact (congrArg Counters.shared (World.counters_keep _ slot _)).trans
          (World.counters_choose world choice)
  | fill config choice options =>
      change (world.fill config choice options).world.counters.shared = _
      rw [World.fill]
      split
      · rfl
      · exact World.counters_choose world choice
  | load packages options =>
      change (world.load packages options).world.counters.shared = _
      rw [World.load]
      split <;> rfl
  | loadOne package => cases package <;> rfl
  | connect subject =>
      rw [World.sharedCalls, World.perform]
      cases world.find subject with
      | error failure => rfl
      | ok client => exact numbered_connect client
  | nextIdentity base counter start =>
      cases counter with
      | shared => contradiction
      | named name =>
          exact (Counters.draw_named_shared _ name).trans
            (Counters.mention_shared world.counters (.named name) start)
  | nextMany counter start count =>
      cases counter with
      | shared => contradiction
      | named name =>
          exact (Counters.drawMany_named_shared _ name count).trans
            (Counters.mention_shared world.counters (.named name) start)
  | launch choice request times =>
      rw [← World.counters_choose world choice]
      exact numbered_launchMany choice.launcher request times
  | invoke arguments probe input =>
      rw [World.sharedCalls, World.perform, World.invoke, CommandLine.execute]
      cases Invocation.parse arguments with
      | error reply => rfl
      | ok invocation =>
          exact numbered_execute invocation (world.machine probe input)
            ⟨world.holdings, world.counters⟩
  | _ => rfl

/-- **A run draws for the calls that it makes**, and for nothing else. -/
theorem numbered_performAll {steps : List Step} (world : World)
    (h : ∀ step ∈ steps, step.drawsDirectly = false) :
    Numbered world.counters.shared (world.sharedCallsAll steps)
      (world.performAll steps).2.counters.shared := by
  induction steps generalizing world with
  | nil => rfl
  | cons step rest ih =>
      exact (numbered_perform world (h step List.mem_cons_self)).append
        (ih _ fun next hnext => h next (List.mem_cons_of_mem _ hnext))

/-! ## Runs from the start -/

/-- The calls of a run in two parts. -/
lemma World.sharedCallsAll_append (world : World) (steps others : List Step) :
    world.sharedCallsAll (steps ++ others)
      = world.sharedCallsAll steps ++ (world.performAll steps).2.sharedCallsAll others := by
  induction steps generalizing world with
  | nil => rfl
  | cons step rest ih =>
      rw [List.cons_append, sharedCallsAll, ih, ← List.append_assoc]
      rfl

/-- A client whose launcher draws from the shared counter. -/
def Client.SharesCounter (client : Client) : Prop :=
  ∃ runtime request, client.connection = .launched (.fresh .shared runtime) request

/-- Connecting such a client is a single call. -/
lemma Client.SharesCounter.exists_sharedCalls {client : Client} (h : client.SharesCounter) :
    ∃ call, client.sharedCalls env counters = [call] := by
  obtain ⟨runtime, request, hconnection⟩ := h
  rw [Client.sharedCalls, hconnection]
  exact ⟨_, rfl⟩

/-- **The connection of such a client is the call of its place in the run.** -/
lemma exists_call_of_connect (world : World) {before after : List Step} {subject : Subject}
    {client : Client} (hfind : (world.performAll before).2.find subject = .ok client)
    (hshares : client.SharesCounter) :
    ∃ call, (world.sharedCallsAll (before ++ .connect subject :: after))[
        (world.sharedCallsAll before).length]? = some call
      ∧ ((world.performAll before).2.perform (.connect subject)).answer
          = call.argv.map .texts := by
  obtain ⟨call, hcall⟩ := hshares.exists_sharedCalls
  have hcalls : (world.performAll before).2.sharedCalls (.connect subject) = [call] := by
    rw [World.sharedCalls, hfind]
    exact hcall
  have hanswer : ((world.performAll before).2.perform (.connect subject)).answer
      = call.argv.map .texts := by
    rw [World.perform, hfind, ← argv_of_sharedCalls hcall]
    rfl
  refine ⟨call, ?_, hanswer⟩
  rw [World.sharedCallsAll_append, World.sharedCallsAll, hcalls,
    List.getElem?_append_right (Nat.le_refl _), Nat.sub_self]
  rfl

namespace Numbered

variable {start stop : Int} {calls : List SharedCall}

/-- No call draws a number below the first. -/
lemma le_suffix (h : Numbered start calls stop) : ∀ call ∈ calls, start ≤ call.identity.suffix := by
  induction calls generalizing start with
  | nil => exact fun _ hc => absurd hc List.not_mem_nil
  | cons first rest ih =>
      intro call hcall
      rcases List.mem_cons.1 hcall with rfl | hrest
      · exact Int.le_of_eq h.1.symm
      · have := ih h.2 call hrest
        omega

/-- **Consecutive numbers make distinct names**, as long as none is below zero. -/
lemma nodup_names (h : Numbered start calls stop) (hstart : 0 ≤ start) :
    (calls.map SharedCall.name).Nodup := by
  induction calls generalizing start with
  | nil => exact List.nodup_nil
  | cons first rest ih =>
      rw [List.map_cons, List.nodup_cons]
      refine ⟨?_, ih h.2 (by omega)⟩
      intro hmem
      obtain ⟨call, hcall, hname⟩ := List.mem_map.1 hmem
      have hle := h.2.le_suffix call hcall
      have hfirst := h.1
      have heq := Identity.suffix_eq_of_stripped (by omega) (by omega) hname
      omega

end Numbered

/-- The words of a call that succeeds hold its name behind those of the runtime. -/
lemma SharedCall.exists_words {call : SharedCall} (h : 0 ≤ call.identity.suffix)
    {argv : List String} (hargv : call.argv = .ok argv) :
    ∃ runtime rest, Command.runtime call.env call.runtime = .ok runtime
      ∧ argv = Command.tidy runtime ++ ["run", "--name", call.name, "--rm", "-i"] ++ rest := by
  rw [SharedCall.argv, launched, Launcher.words_fresh] at hargv
  obtain ⟨runtime, hruntime, hargv⟩ := bind_eq_ok_iff.1 hargv
  obtain ⟨name, hname, hargv⟩ := bind_eq_ok_iff.1 hargv
  obtain ⟨-, rfl⟩ := Identity.name_eq_ok_iff.1 hname
  obtain ⟨command, -, rfl⟩ := map_eq_ok_iff.1 hargv
  exact ⟨runtime, _, hruntime, startWords_tidied (Identity.stripped_fullName_ne h) _ _ _ _⟩

/-- **The names of new containers do not collide.**  In a run of steps from the start, none of which
takes numbers by itself:

* the calls of launchers on the shared counter draw 1, 2, 3, … in order, whether or not they come to
  a command, and nothing else moves the counter;
* the connection of a client with such a launcher is the call of its place in the run;
* a connection that comes to words has the name of its call behind the words of its runtime,
* and all these names are distinct. -/
theorem container_names_nodup (around : Surroundings) (spawn : Environment → Spawn)
    {steps : List Step} (h : ∀ step ∈ steps, step.drawsDirectly = false) :
    let start := World.fresh around spawn
    let calls := start.sharedCallsAll steps
    (∀ (k : Nat) (hk : k < calls.length), calls[k].identity.suffix = k + 1)
    ∧ (start.performAll steps).2.counters.shared = calls.length + 1
    ∧ (∀ before subject after client, steps = before ++ .connect subject :: after →
        (start.performAll before).2.find subject = .ok client → client.SharesCounter →
        ∃ call, calls[(start.sharedCallsAll before).length]? = some call
          ∧ ((start.performAll before).2.perform (.connect subject)).answer
              = call.argv.map .texts)
    ∧ (∀ call ∈ calls, ∀ argv, call.argv = .ok argv →
        ∃ runtime rest, Command.runtime call.env call.runtime = .ok runtime
          ∧ argv = Command.tidy runtime ++ ["run", "--name", call.name, "--rm", "-i"] ++ rest)
    ∧ (calls.map SharedCall.name).Nodup := by
  intro start calls
  have hnumbered : Numbered 1 calls (start.performAll steps).2.counters.shared :=
    numbered_performAll start h
  refine ⟨?_, ?_, ?_, ?_, hnumbered.nodup_names (by decide)⟩
  · intro k hk
    rw [hnumbered.suffix_eq k hk, Int.add_comm]
  · rw [hnumbered.stop_eq, Int.add_comm]
  · intro before subject after client hsteps hfind hshares
    subst hsteps
    exact exists_call_of_connect start hfind hshares
  · intro call hcall argv hargv
    have hle := hnumbered.le_suffix call hcall
    exact SharedCall.exists_words (by omega) hargv

/-- The arguments of a container client for Go. -/
def goArguments (id name : String) : List (String × Datum) :=
  [("server_id", .text "gopls"), ("docker_server_id", .text id),
   ("server_command", .text "gopls"), ("path_mappings", .ofTexts ["/h:/c"]),
   ("container_name", .text name), ("image_id", .text "img"), ("priority", .whole 10)]

/-- A run with two container clients, the base name of one of which looks like a name of the other:
both are connected, the second one with a runtime that cannot be cut into words before that. -/
def twoClients : List Step :=
  [.registerDirect (.text "gopls") (.text "gopls") (.list [.text ".go"]) (.whole 0) none,
   .registerContainer (goArguments "a" "box") ⟨.fresh .shared .null, 1⟩ none,
   .registerContainer (goArguments "b" "box-1") ⟨.fresh .shared (.text "'"), 1⟩ none,
   .connect (.registered (.text "a")),
   .connect (.registered (.text "b")),
   .connect (.registered (.text "a"))]

/-- A world without servers: none of them can be started. -/
def World.bare : World := .fresh .bare fun _ _ _ => .error .programNotFound

/-- That run makes three calls, one of which fails, and moves the counter to 4. -/
theorem container_names_nodup_twoClients :
    (∀ step ∈ twoClients, step.drawsDirectly = false)
    ∧ (World.bare.sharedCallsAll twoClients).length = 3
    ∧ (World.bare.performAll twoClients).2.counters.shared = 4
    ∧ ((World.bare.sharedCallsAll twoClients).map SharedCall.name).Nodup := by
  have hsteps : ∀ step ∈ twoClients, step.drawsDirectly = false := by decide
  have hlength : (World.bare.sharedCallsAll twoClients).length = 3 := by decide +kernel
  obtain ⟨-, hcounter, -, -, hnames⟩ := container_names_nodup .bare World.bare.spawn hsteps
  have hlast : (World.bare.performAll twoClients).2.counters.shared
      = (World.bare.sharedCallsAll twoClients).length + 1 := hcounter
  rw [hlength] at hlast
  exact ⟨hsteps, hlength, hlast, hnames⟩

end ContainerClients
