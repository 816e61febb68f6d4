import Mathlib.Algebra.Order.BigOperators.Group.List
import Mathlib.Algebra.Order.Group.Nat
import ContainerClients.Proofs.Anchors
import ContainerClients.Proofs.ClientOrder
import ContainerClients.Proofs.Derivations
import ContainerClients.Proofs.ParsedMount
import ContainerClients.Proofs.Translation

/-!
# Covered paths and translated paths

A container client is offered for the files that its mounts cover, and it names them by
translation.  The two do not ask the same question: a mount covers a path segment by segment, and
translation looks for a host root as it is written.  A path below a mount may be spelled so that no
host root can be seen in it.

* `Mapping.Anchored` — some host root is seen in an anchor of each host root.
* `Anchored.exists_isInfix` — then every covered path shows a host root.
* `anchored_of_forall_covers` — nothing less will do, for mounts that were read.
* `exists_isInfix_of_plain` — a plain path below a plain root always shows it.
* **`covers_imp_translates_iff`** — the exact condition, for paths and for the clients of a
  registry.
-/

namespace ContainerClients.Mapping

open ContainerClients.Text ContainerClients.FilePath

variable {mapping : Mapping}

/-- **Anchored mounts**: in an anchor of each host root some host root occurs. -/
def Anchored (mapping : Mapping) : Prop :=
  ∀ mount ∈ mapping, ∃ other ∈ mapping, ∃ anchor ∈ (ofText mount.host.toList).anchors,
    other.host.toList <:+: anchor

instance (mapping : Mapping) : Decidable mapping.Anchored :=
  inferInstanceAs (Decidable (∀ mount ∈ mapping, _))

lemma covers_eq_true_iff {path : String} :
    mapping.covers path = true ↔ path ≠ "" ∧ ∃ mount ∈ mapping,
      (ofText path.toList).isUnder (ofText mount.host.toList) = true := by
  rw [covers, Bool.and_eq_true, List.any_eq_true, Bool.not_eq_true', ← Bool.not_eq_true,
    String.isEmpty_iff]

/-! ## Enough: anchored mounts -/

/-- **Under anchored mounts every covered path shows a host root.** -/
theorem Anchored.exists_isInfix (h : mapping.Anchored) {path : String}
    (hpath : mapping.covers path = true) :
    ∃ mount ∈ mapping, mount.host.toList <:+: path.toList := by
  obtain ⟨-, mount, hm, hunder⟩ := covers_eq_true_iff.1 hpath
  obtain ⟨other, ho, anchor, hanchor, hocc⟩ := h mount hm
  exact ⟨other, ho, hocc.trans (isInfix_of_mem_anchors hunder hanchor)⟩

/-- **A plain path below a plain host root shows it**, whatever the mounts. -/
theorem exists_isInfix_of_plain {path : String} {mount : Mount} (hm : mount ∈ mapping)
    (hunder : (ofText path.toList).isUnder (ofText mount.host.toList) = true)
    (hpath : plain path.toList = path.toList)
    (hhost : plain mount.host.toList = mount.host.toList) :
    ∃ mount ∈ mapping, mount.host.toList <:+: path.toList := by
  refine ⟨mount, hm, ?_⟩
  rw [← hpath, ← hhost]
  exact (spelling_prefix_of_isUnder 0 hunder).isInfix

/-! ## Nothing less: the spellings of host roots -/

section

variable (hkept : ∀ mount ∈ mapping, IsKeptRoot mount.host.toList)
  (hlaw : ∀ path, mapping.covers path = true →
    ∃ mount ∈ mapping, mount.host.toList <:+: path.toList)

include hkept hlaw

/-- If every covered path shows a host root, no host root is the current folder: that covers the
path of a single blank, and no root that was read occurs in it. -/
lemma ofText_host_ne_current {mount : Mount} (hm : mount ∈ mapping) :
    ofText mount.host.toList ≠ ⟨.none, []⟩ := by
  intro hcurrent
  have hcovers : mapping.covers " " = true := by
    refine covers_eq_true_iff.2 ⟨by decide, mount, hm, ?_⟩
    rw [hcurrent]
    decide
  obtain ⟨other, ho, hocc⟩ := hlaw " " hcovers
  obtain ⟨c, rest, hroot⟩ := List.exists_cons_of_ne_nil (hkept other ho).ne_nil
  have hblank : isBlank c = false := (hkept other ho).head c (by rw [hroot]; rfl)
  have hc : c ∈ " ".toList := hocc.subset (by rw [hroot]; exact List.mem_cons_self)
  obtain rfl : c = ' ' := List.mem_singleton.1 hc
  exact absurd hblank (by decide)

/-- If every covered path shows a host root, every spelling of a host root does. -/
lemma exists_isInfix_of_spelling {mount : Mount} (hm : mount ∈ mapping) {s : List Char}
    (hs : ofText s = ofText mount.host.toList) :
    ∃ other ∈ mapping, other.host.toList <:+: s := by
  have hne : String.ofList s ≠ "" := by
    intro hempty
    rw [← String.toList_inj, String.toList_ofList] at hempty
    rw [hempty] at hs
    exact ofText_host_ne_current hkept hlaw hm hs.symm
  have hcovers : mapping.covers (String.ofList s) = true := by
    refine covers_eq_true_iff.2 ⟨hne, mount, hm, ?_⟩
    rw [String.toList_ofList, hs]
    simp [isUnder]
  obtain ⟨other, ho, hocc⟩ := hlaw _ hcovers
  rw [String.toList_ofList] at hocc
  exact ⟨other, ho, hocc⟩

/-- **If every covered path shows a host root, the mounts are anchored.**  A host root spelled with
wide gaps shows some host root, which is spelled plainly in an anchor; and that plain spelling shows
a host root again. -/
theorem anchored_of_forall_covers : mapping.Anchored := by
  intro mount hm
  have hpath := wellFormed_ofText mount.host.toList
  by_cases hne : (ofText mount.host.toList).segments = []
  · obtain ⟨other, ho, hocc⟩ :=
      exists_isInfix_of_spelling hkept hlaw hm (ofText_spelling 0 hpath)
    exact ⟨other, ho, _,
      spelling_mem_anchors hne (ofText_host_ne_current hkept hlaw hm), hocc⟩
  · let k := (mapping.map fun mount => mount.host.toList.length).sum
    obtain ⟨other, ho, hocc⟩ :=
      exists_isInfix_of_spelling hkept hlaw hm (ofText_spelling k hpath)
    have hlen : other.host.toList.length ≤ (gap k).length :=
      (List.le_sum_of_mem (List.mem_map_of_mem ho)).trans (le_length_gap k)
    obtain ⟨anchor, hanchor, hplain⟩ := plain_isInfix_anchor hpath hne hocc hlen
    obtain ⟨third, ht, hocc'⟩ :=
      exists_isInfix_of_spelling hkept hlaw ho (ofText_plain other.host.toList)
    exact ⟨third, ht, anchor, hanchor, hocc'.trans hplain⟩

end

end ContainerClients.Mapping

/-! ## The clients that are offered -/

namespace ContainerClients.Registry

/-- **A client that is offered for a file is activated by it.** -/
theorem isActivated_of_mem_clientsFor {registry : Registry} {path : String} {clients : List Client}
    (h : registry.clientsFor path = .ok clients) {client : Client} (hc : client ∈ clients) :
    client.isActivated path = .ok true := by
  rw [clientsFor_eq] at h
  obtain ⟨chosen, hchosen, h⟩ := bind_eq_ok_iff.1 h
  obtain ⟨ranks, hranks, hsort⟩ := bind_eq_ok_iff.1 h
  split at hsort
  · obtain rfl := Except.ok.inj hsort
    obtain ⟨pair, hpair, rfl⟩ := List.mem_map.1 hc
    obtain ⟨source, hsource, hrank⟩ := exists_of_mem_mapM hranks (List.mem_mergeSort.1 hpair)
    rw [(ranked_eq_ok_iff.1 hrank).2]
    exact ((mem_activated_iff hchosen).1 hsource).2
  · contradiction

/-- A client that is alone in its registry is offered for what activates it. -/
lemma clientsFor_register_empty {client : Client} {path : String} {rank : Rank}
    (hrank : Rank.ofDatum? client.priority = some rank)
    (hact : client.isActivated path = .ok true) :
    (empty.register client).clientsFor path = .ok [client] := by
  have hranked : ranked client = .ok (rank, client) := ranked_eq_ok_iff.2 ⟨hrank, rfl⟩
  have hclients : activated path (empty.register client).clients = .ok [client] := by
    rw [show (empty.register client).clients = [client] from rfl, activated_cons, hact]
    rfl
  have hties : tiesAreComparable [(rank, client)] = true := by
    have hkind : client.id.key.sameKind client.id.key = true := by cases client.id.key <;> rfl
    simp [tiesAreComparable, hkind]
  have hranks : [client].mapM ranked = .ok [(rank, client)] :=
    mapM_eq_ok_iff.2 (.cons hranked .nil)
  refine bind_eq_ok_iff.2 ⟨_, hclients, bind_eq_ok_iff.2 ⟨_, hranks, ?_⟩⟩
  rw [if_pos hties, List.mergeSort_singleton]
  rfl

end ContainerClients.Registry

namespace ContainerClients.Mapping

open ContainerClients.Text ContainerClients.FilePath

/-- A container client for the files that are named as a path is. -/
def clientNamed (mapping : Mapping) (path : String) : Client :=
  Client.inContainer
    (.onHost .nothing [String.ofList (lower (ofText path.toList).name)] [] Client.directPriority)
    { id := .nothing
      command := []
      priority := Client.directPriority
      mapping
      containerName := .null
      image := .null
      launcher := .standard }

lemma isActivated_clientNamed {mapping : Mapping} {path : String}
    (h : mapping.covers path = true) : (mapping.clientNamed path).isActivated path = .ok true := by
  rw [clientNamed, Client.isActivated_inContainer, h, Bool.and_true, Client.handles, Client.onHost]
  simp

/-- **What covering promises about translation.**  For mounts that were read:

* every covered path is translated exactly when the mounts are anchored;
* exactly then, too, every container client that a registry offers for a path translates it;
* of the covered paths, those in which no host root occurs are reported as not mapped, and the
  others are translated;
* in particular, a plain path below a plain host root is translated. -/
theorem covers_imp_translates_iff {d : Datum} {mapping : Mapping}
    (h : Mapping.ofDatum d = .ok mapping) :
    ((∀ path, mapping.covers path = true → ∃ uri, mapping.toContainerUri path = .ok uri)
      ↔ mapping.Anchored)
    ∧ ((∀ (registry : Registry) (path : String) (clients : List Client) (client : Client)
        (own : Derivation), registry.clientsFor path = .ok clients → client ∈ clients →
        client.IsMadeBy own → own.mapping = mapping →
        ∃ uri, client.toUri path = .ok uri) ↔ mapping.Anchored)
    ∧ (∀ path, mapping.covers path = true →
        (mapping.toContainerUri path = .error (.pathNotMapped (.text path))
            ∧ ∀ mount ∈ mapping, ¬ mount.host.toList <:+: path.toList)
          ∨ ((∃ uri, mapping.toContainerUri path = .ok uri)
            ∧ ∃ mount ∈ mapping, mount.host.toList <:+: path.toList))
    ∧ ∀ (path : String), ∀ mount ∈ mapping,
        (ofText path.toList).isUnder (ofText mount.host.toList) = true →
        plain path.toList = path.toList → plain mount.host.toList = mount.host.toList →
        ∃ uri, mapping.toContainerUri path = .ok uri := by
  have hkept : ∀ mount ∈ mapping, IsKeptRoot mount.host.toList :=
    fun mount hm => (isKeptRoot_of_ofDatum h hm).1
  have hpaths : (∀ path, mapping.covers path = true →
      ∃ uri, mapping.toContainerUri path = .ok uri) ↔ mapping.Anchored := by
    simp only [toContainerUri_eq_ok_iff]
    exact ⟨anchored_of_forall_covers hkept, fun hanch path => hanch.exists_isInfix⟩
  refine ⟨hpaths, ?_, ?_, ?_⟩
  · rw [← hpaths]
    constructor
    · intro hclients path hcovers
      have hact := isActivated_clientNamed hcovers
      exact hclients _ path _ _ _ (Registry.clientsFor_register_empty rfl hact)
        List.mem_cons_self (Client.isMadeBy_inContainer _ _) rfl
    · rintro hlaw registry path clients client own hoffered hc ⟨source, rfl⟩ rfl
      have hact := Registry.isActivated_of_mem_clientsFor hoffered hc
      rw [Client.isActivated_inContainer, Except.ok.injEq, Bool.and_eq_true] at hact
      exact hlaw path hact.2
  · intro path _
    by_cases hocc : ∃ mount ∈ mapping, mount.host.toList <:+: path.toList
    · exact Or.inr ⟨(toContainerUri_eq_ok_iff mapping path).2 hocc, hocc⟩
    · have hnone : ∀ mount ∈ mapping, ¬ mount.host.toList <:+: path.toList :=
        fun mount hm h => hocc ⟨mount, hm, h⟩
      exact Or.inl ⟨toContainerUri_of_forall_not hnone, hnone⟩
  · intro path mount hm hunder hpath hhost
    exact (toContainerUri_eq_ok_iff mapping path).2
      (exists_isInfix_of_plain hm hunder hpath hhost)

/-- A mount of a folder of the host's root. -/
def topMount : Mapping := [⟨"/a", "/c"⟩]

/-- That mount is anchored, and translates whatever it covers. -/
theorem covers_imp_translates_topMount :
    Mapping.ofDatum (.ofTexts ["/a:/c"]) = .ok topMount
    ∧ topMount.Anchored
    ∧ ∀ path, topMount.covers path = true → ∃ uri, topMount.toContainerUri path = .ok uri :=
  ⟨rfl, by decide, (covers_imp_translates_iff (d := .ofTexts ["/a:/c"]) rfl).1.2 (by decide)⟩

/-- A mount one folder deeper. -/
def nestedMount : Mapping := [⟨"/a/b", "/c"⟩]

/-- **A covered path is not always translated.**  A slash said twice hides the host root, and the
client that is offered for the file cannot name it. -/
theorem covers_imp_translates_fails :
    Mapping.ofDatum (.ofTexts ["/a/b:/c"]) = .ok nestedMount
    ∧ nestedMount.covers "/a//b/x" = true
    ∧ nestedMount.toContainerUri "/a//b/x" = .error (.pathNotMapped (.text "/a//b/x"))
    ∧ ∃ registry client, Registry.clientsFor registry "/a//b/x" = .ok [client]
      ∧ client.toUri "/a//b/x" = .error (.pathNotMapped (.text "/a//b/x")) := by
  have hcovers : nestedMount.covers "/a//b/x" = true := by decide
  have hact := isActivated_clientNamed hcovers
  exact ⟨rfl, hcovers, rfl, _, _, Registry.clientsFor_register_empty rfl hact, rfl⟩

end ContainerClients.Mapping
