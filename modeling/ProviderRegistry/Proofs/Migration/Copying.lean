/-
# `Proofs.Migration.Copying` — collections copied whole, and copies cut short

A copy clears its target and then adds the source's documents one by one; a
source without documents leaves its target alone.  Backup and rollback are both
a row of copies, in opposite directions, and nothing else is proved about them
than what is proved about such a row.

## What is proved

With every collection usable and the identities of every source distinct:

    a row of copies ends, with  target = copied source earlier       (`run_copyAll`)
    cut short anywhere,         target is `Begun` from the same two  (`stop_copyAll`)

and of any database at all:

    no collection but the targets changes, ended or cut short        (`spares_copyAll`)
    nor does a target whose source is empty                          (`alike_copyAll`)
    no identity is drawn, if the documents have their own            (`quiet_copyAll`)

`copied` and `Begun` are about two lists of documents: what the source holds and
what the target held earlier.  A target that is `Begun` holds what it held, or
some first documents of the source — none of them right after the clearing, and
all of them at the end.

Each of these goes through the row copy by copy.  A single copy either meets a
fault (`copyFault?`) and has only read, or it ends (`run_copy_of_fault`,
`run_copy`), and the first copy of a row leaves the later ones as they were
(`Apart.run_head`).

The targets of a row must be apart from each other and from every source
(`Apart`), or a copy would overwrite what a later one reads.
-/
import ProviderRegistry.Migration.Steps
import ProviderRegistry.Proofs.Store.Endings
import ProviderRegistry.Proofs.Store.Supply

namespace ProviderRegistry

namespace Migration

/-! ## What a copy makes of its target -/

/-- The target of a copy after it, from what the source holds and what the target held. -/
def copied (source earlier : List Document) : List Document :=
  if source.isEmpty then earlier else source

@[simp] theorem copied_nil (earlier : List Document) : copied [] earlier = earlier := rfl

theorem copied_of_ne_nil {source : List Document} (h : source ≠ []) (earlier : List Document) :
    copied source earlier = source := by
  simp [copied, h]

/-- What can stand in the target of a copy that is cut short. -/
inductive Begun (source earlier : List Document) : List Document → Prop
  | untouched : Begun source earlier earlier
  | first (k : Nat) : source ≠ [] → Begun source earlier (source.take k)

theorem begun_copied (source earlier : List Document) :
    Begun source earlier (copied source earlier) := by
  cases source with
  | nil => exact .untouched
  | cons d rest =>
      rw [copied_of_ne_nil (List.cons_ne_nil d rest)]
      have h : Begun (d :: rest) earlier _ := .first (d :: rest).length (List.cons_ne_nil d rest)
      rwa [List.take_length] at h

theorem Begun.distinctIds {source earlier now : List Document} (h : Begun source earlier now)
    (hsource : DistinctIds source) (hearlier : DistinctIds earlier) : DistinctIds now := by
  cases h with
  | untouched => exact hearlier
  | first k _ => exact hsource.take k

theorem distinctIds_copied {source earlier : List Document} (hsource : DistinctIds source)
    (hearlier : DistinctIds earlier) : DistinctIds (copied source earlier) :=
  (begun_copied source earlier).distinctIds hsource hearlier

/-! ## One copy -/

section One

variable {db : Database} {source target : String}

theorem spares_copy (source target : String) : (copy source target).Spares (· ≠ target) := by
  refine (Script.spares_find _ _).bind fun ds => ?_
  split
  · exact Script.spares_pure none
  · exact (Script.spares_deleteAll (fun h => h rfl) _).bind fun _ =>
      (Script.spares_insertAll (fun h => h rfl) ds).bind fun _ => Script.spares_pure _

/-- How many documents a copy reports. -/
def countOf (ds : List Document) : Option Nat := if ds.isEmpty then none else some ds.length

theorem run_findAll {c : String} (h : db.fault? c = none) :
    (Script.find c Document.empty).run db = (.ok (db.documents c), db.counted) := by
  rw [Script.run_find h, Database.findIn_empty]

/-- A collection that is cleared and filled with documents of distinct identities holds them. -/
theorem run_refill {α : Type} {c : String} {ds : List Document} (h : db.fault? c = none)
    (hids : DistinctIds ds) (value : α) :
    (Script.deleteAll c Document.empty >>= fun _ =>
      Script.insertAll c ds >>= fun _ => pure value).run db = (.ok value, db.put c ds) := by
  have hinsert := Script.run_insertAll (db.put c []) h (by simpa using hids : DistinctIds (_ ++ ds))
  rw [Script.run_bind_ok (Script.run_deleteAll h), Script.run_bind_ok hinsert, Script.run_pure]
  simp

/-- The fault that a copy meets: that of its source, or that of its target where there is something
to copy. -/
def copyFault? (db : Database) (source target : String) : Option StoreFault :=
  match db.fault? source with
  | some fault => some fault
  | none => if (db.documents source).isEmpty then none else db.fault? target

theorem copyFault?_of_available (h : db.Available) (source target : String) :
    copyFault? db source target = none := by
  simp [copyFault?, h.fault?]

/-- A copy that meets a fault fails with it, and has done no more than read. -/
theorem run_copy_of_fault {fault : StoreFault} (h : copyFault? db source target = some fault) :
    ∃ reads, (copy source target).run db = (.error fault.toError, db.served reads) := by
  unfold copyFault? at h
  cases hsource : db.fault? source with
  | some found =>
      obtain rfl : found = fault := by simpa [hsource] using h
      have hfind : (Script.find source Document.empty).run db = (.error found.toError, db) :=
        Script.run_call_of_fault hsource (.inl rfl)
      exact ⟨0, Script.run_bind_error hfind⟩
  | none =>
      cases hds : db.documents source with
      | nil => simp [hsource, hds] at h
      | cons d rest =>
          have htarget : db.counted.fault? target = some fault := by simpa [hsource, hds] using h
          refine ⟨1, ?_⟩
          rw [copy, Script.run_bind_ok (run_findAll hsource), hds]
          exact Script.run_bind_error (Script.run_call_of_fault htarget (.inr rfl))

/-- A copy that meets no fault ends, with its target copied. -/
theorem run_copy (h : copyFault? db source target = none)
    (hids : DistinctIds (db.documents source)) :
    (copy source target).run db = (.ok (countOf (db.documents source)),
      db.counted.put target (copied (db.documents source) (db.documents target))) := by
  unfold copyFault? at h
  cases hsource : db.fault? source with
  | some found => simp [hsource] at h
  | none =>
      rw [copy, Script.run_bind_ok (run_findAll hsource)]
      cases hds : db.documents source with
      | nil =>
          show (Except.ok none, db.counted)
            = (Except.ok none, db.counted.put target (db.counted.documents target))
          rw [Database.put_documents]
      | cons d rest =>
          have htarget : db.counted.fault? target = none := by simpa [hsource, hds] using h
          exact run_refill htarget (hds ▸ hids) _

/-- A copy of documents with identities draws none. -/
theorem quiet_copy (hids : ∀ d ∈ db.documents source, (d.get? "_id").isSome) :
    (copy source target).Quiet db := by
  refine (Script.quiet_find source _).bind fun ds after hfind => ?_
  obtain ⟨-, rfl, -⟩ := Script.ok_of_run_find hfind
  split
  · exact Script.quiet_pure none
  · refine (Script.quiet_deleteAll target _).bind fun _ cleared _ => ?_
    exact (Script.quiet_insertAll target hids cleared).bind fun _ _ _ => Script.quiet_pure _

/-- A copy of an empty collection changes nothing. -/
theorem alike_copy_of_nil (s : String → Prop) (h : db.documents source = []) :
    db.Alike s ((copy source target).run db).2 := by
  cases hsource : db.fault? source with
  | some fault =>
      have hfault : copyFault? db source target = some fault := by simp [copyFault?, hsource]
      obtain ⟨reads, hrun⟩ := run_copy_of_fault hfault
      rw [hrun]
      exact ⟨rfl, rfl, fun _ _ => rfl⟩
  | none =>
      rw [copy, Script.run_bind_ok (run_findAll hsource), h]
      exact db.alike_counted s

/-- A copy that is cut short leaves its target begun. -/
theorem stop_copy (h : db.Available) (hids : DistinctIds (db.documents source)) (n : Nat) :
    Begun (db.documents source) (db.documents target)
      (((copy source target).stop n db).documents target) := by
  refine Script.stop_bind (P := fun left => Begun _ _ (left.documents target))
    (run_findAll (h.fault? source)) (fun n => ?_) (fun m => ?_) n
  · have hfind := Script.spares_find (s := fun _ => True) source Document.empty
    rw [(hfind.alike_stop n db).documents target trivial]
    exact .untouched
  · cases hds : db.documents source with
    | nil => exact .untouched
    | cons d rest =>
        have hne : d :: rest ≠ [] := List.cons_ne_nil d rest
        show Begun _ _ (((Script.deleteAll target Document.empty >>= fun _ =>
          Script.insertAll target (d :: rest) >>= fun _ =>
            pure (some (d :: rest).length)).stop m db.counted).documents target)
        refine Script.stop_bind (P := fun left => Begun _ _ (left.documents target))
          (Script.run_deleteAll (h.counted.fault? target)) (fun n => ?_) (fun m => ?_) m
        · rcases Script.stop_call (.deleteAll target Document.empty) n db.counted with hn | hn
          · rw [Script.deleteAll, hn]
            exact .untouched
          · rw [Script.deleteAll, hn, ← Script.deleteAll,
              Script.run_deleteAll (h.counted.fault? target)]
            simpa using Begun.first 0 hne
        · rw [Script.stop_bind_pure, Script.stop_insertAll (db.counted.put target [])
            (h.fault? target) (by simpa [hds] using hids)]
          simpa using Begun.first m hne

end One

/-! ## A row of copies -/

/-- No target of the row is one of its sources, and no two of its targets are one collection. -/
structure Apart (ends : String → String × String) (cs : List String) : Prop where
  sources : ∀ c ∈ cs, ∀ c' ∈ cs, (ends c').1 ≠ (ends c).2
  targets : cs.Pairwise fun c c' => (ends c).2 ≠ (ends c').2

/-- The report of a row of copies, from what its sources hold. -/
def reportOf (held : String → List Document) : List String → CopyReport
  | [] => ⟨[], []⟩
  | c :: rest => (reportOf held rest).cons c (countOf (held c))

/-- The collections that held documents are reported with their numbers, in the row's order. -/
theorem copied_reportOf (held : String → List Document) (cs : List String) :
    (reportOf held cs).copied
      = (cs.filter fun c => !(held c).isEmpty).map fun c => ⟨c, (held c).length⟩ := by
  induction cs with
  | nil => rfl
  | cons c rest ih =>
      cases hc : held c with
      | nil => simpa [reportOf, countOf, CopyReport.cons, hc] using ih
      | cons d ds => simpa [reportOf, countOf, CopyReport.cons, hc] using ih

/-- The others are reported as skipped. -/
theorem skipped_reportOf (held : String → List Document) (cs : List String) :
    (reportOf held cs).skipped = cs.filter fun c => (held c).isEmpty := by
  induction cs with
  | nil => rfl
  | cons c rest ih =>
      cases hc : held c with
      | nil => simpa [reportOf, countOf, CopyReport.cons, hc] using ih
      | cons d ds => simpa [reportOf, countOf, CopyReport.cons, hc] using ih

theorem reportOf_congr {held held' : String → List Document} {cs : List String}
    (h : ∀ c ∈ cs, held c = held' c) : reportOf held cs = reportOf held' cs := by
  induction cs with
  | nil => rfl
  | cons c rest ih =>
      rw [reportOf, reportOf, h c List.mem_cons_self,
        ih fun c hc => h c (List.mem_cons_of_mem _ hc)]

section Row

variable {ends : String → String × String}

theorem spares_copyAll (ends : String → String × String) :
    ∀ cs : List String, (copyAll ends cs).Spares fun t => ∀ c ∈ cs, (ends c).2 ≠ t
  | [] => trivial
  | c :: rest => by
      have hrest : (copyAll ends rest).Spares fun t => ∀ c' ∈ c :: rest, (ends c').2 ≠ t :=
        (spares_copyAll ends rest).mono fun t ht c' hc' => ht c' (List.mem_cons_of_mem _ hc')
      refine Script.Spares.bind ?_ fun _ => hrest.bind fun _ => Script.spares_pure _
      exact (spares_copy _ _).mono fun t ht h => ht c List.mem_cons_self h.symm

/-- A row of copies fails only as the store refuses it. -/
theorem ends_copyAll {E : ConfigError → Prop} (hE : ∀ e, e.FromStore → E e)
    (ends : String → String × String) :
    ∀ cs : List String, (copyAll ends cs).Ends (fun _ => True) E
  | [] => trivial
  | c :: rest => by
      have hcopy : (copy (ends c).1 (ends c).2).Ends (fun _ => True) E := by
        refine (Script.ends_call hE (.find (ends c).1 _)).bind fun ds _ => ?_
        split
        · trivial
        · refine (Script.ends_call hE (.deleteAll (ends c).2 _)).bind fun _ _ => ?_
          exact (Script.ends_insertAll hE (ends c).2 ds).bind fun _ _ => trivial
      exact hcopy.bind fun _ _ => (ends_copyAll hE ends rest).bind fun _ _ => trivial

/-! ### The first copy of a row and the others -/

/-- The collections between which a row copies. -/
def Involved (ends : String → String × String) (cs : List String) (t : String) : Prop :=
  ∃ c ∈ cs, t = (ends c).1 ∨ t = (ends c).2

section Head

variable {c : String} {rest : List String}

theorem Apart.tail (h : Apart ends (c :: rest)) : Apart ends rest :=
  ⟨fun a ha b hb => h.sources a (List.mem_cons_of_mem _ ha) b (List.mem_cons_of_mem _ hb),
    (List.pairwise_cons.mp h.targets).2⟩

/-- The later copies are not into the target of the first. -/
theorem Apart.spares_target (h : Apart ends (c :: rest)) :
    (copyAll ends rest).Spares (· = (ends c).2) := by
  refine (spares_copyAll ends rest).mono ?_
  rintro t rfl c' hc'
  exact ((List.pairwise_cons.mp h.targets).1 c' hc').symm

/-- The first copy, however it ends, leaves what the later ones are between. -/
theorem Apart.spares_later (h : Apart ends (c :: rest)) :
    (copy (ends c).1 (ends c).2).Spares (Involved ends rest) := by
  refine (spares_copy _ _).mono ?_
  rintro t ⟨c', hc', rfl | rfl⟩
  · exact h.sources c List.mem_cons_self c' (List.mem_cons_of_mem c hc')
  · exact ((List.pairwise_cons.mp h.targets).1 c' hc').symm

/-- The first copy, where it meets no fault, ends with its target copied. -/
theorem Apart.run_head (h : Apart ends (c :: rest)) {db : Database}
    (hfault : copyFault? db (ends c).1 (ends c).2 = none)
    (hids : DistinctIds (db.documents (ends c).1)) :
    ∃ middle, (copy (ends c).1 (ends c).2).run db
        = (.ok (countOf (db.documents (ends c).1)), middle) ∧
      middle.documents (ends c).2
        = copied (db.documents (ends c).1) (db.documents (ends c).2) ∧
      db.Alike (Involved ends rest) middle := by
  have hcopy := run_copy hfault hids
  have hkept := h.spares_later.alike_run db
  rw [hcopy] at hkept
  exact ⟨_, hcopy, Database.documents_put_self _ _ _, hkept⟩

/-- What is asked of the sources of a row holds of those of the later copies after the first. -/
theorem sources_tail {P : List Document → Prop} {db middle : Database}
    (hsources : ∀ c' ∈ c :: rest, P (db.documents (ends c').1))
    (hkept : db.Alike (Involved ends rest) middle) :
    ∀ c' ∈ rest, P (middle.documents (ends c').1) := by
  intro c' hc'
  rw [hkept.documents _ ⟨c', hc', .inl rfl⟩]
  exact hsources c' (List.mem_cons_of_mem c hc')

end Head

/-! ### The row -/

/-- A row of copies, however it ends, leaves the targets whose sources are empty. -/
theorem alike_copyAll {cs : List String} (hcs : Apart ends cs) (db : Database) :
    db.Alike (fun t => ∀ c ∈ cs, (ends c).2 = t → db.documents (ends c).1 = [])
      ((copyAll ends cs).run db).2 := by
  induction cs generalizing db with
  | nil => exact .refl _ db
  | cons c rest ih =>
      have hcopy : db.Alike (fun t => ∀ c' ∈ c :: rest, (ends c').2 = t →
          db.documents (ends c').1 = []) ((copy (ends c).1 (ends c).2).run db).2 := by
        by_cases hnil : db.documents (ends c).1 = []
        · exact alike_copy_of_nil _ hnil
        · refine ((spares_copy (ends c).1 (ends c).2).alike_run db).mono ?_
          rintro t ht rfl
          exact hnil (ht c List.mem_cons_self rfl)
      have hkept := hcs.spares_later.alike_run db
      show db.Alike _ ((copy (ends c).1 (ends c).2 >>= fun count => copyAll ends rest >>=
        fun report => pure (report.cons c count)).run db).2
      rcases hrun : (copy (ends c).1 (ends c).2).run db with ⟨e | count, middle⟩
      · rw [Script.run_bind_error hrun]
        rwa [hrun] at hcopy
      · rw [hrun] at hcopy hkept
        rw [Script.run_bind_ok hrun, Script.run_map_snd]
        refine hcopy.trans ((ih hcs.tail middle).mono ?_)
        intro t ht c' hc' htarget
        rw [hkept.documents _ ⟨c', hc', .inl rfl⟩]
        exact ht c' (List.mem_cons_of_mem c hc') htarget

/-- A row of copies of documents with identities draws none. -/
theorem quiet_copyAll {cs : List String} (hcs : Apart ends cs) {db : Database}
    (hids : ∀ c ∈ cs, ∀ d ∈ db.documents (ends c).1, (d.get? "_id").isSome) :
    (copyAll ends cs).Quiet db := by
  induction cs generalizing db with
  | nil => exact Script.quiet_pure _
  | cons c rest ih =>
      refine (quiet_copy (hids c List.mem_cons_self)).bind fun count after hcopy => ?_
      have hkept := hcs.spares_later.alike_run db
      rw [hcopy] at hkept
      have hrest := sources_tail (P := fun ds => ∀ d ∈ ds, (d.get? "_id").isSome) hids hkept
      exact (ih hcs.tail hrest).bind fun _ _ _ => Script.quiet_pure _

/-- A row of copies ends, and every target of it is copied. -/
theorem run_copyAll {cs : List String} (hcs : Apart ends cs) {db : Database} (h : db.Available)
    (hids : ∀ c ∈ cs, DistinctIds (db.documents (ends c).1)) :
    ∃ after, (copyAll ends cs).run db
        = (.ok (reportOf (fun c => db.documents (ends c).1) cs), after) ∧
      ∀ c ∈ cs, after.documents (ends c).2
        = copied (db.documents (ends c).1) (db.documents (ends c).2) := by
  induction cs generalizing db with
  | nil => exact ⟨db, rfl, fun c hc => absurd hc List.not_mem_nil⟩
  | cons c rest ih =>
      obtain ⟨middle, hfirst, htarget, hkept⟩ :=
        hcs.run_head (copyFault?_of_available h _ _) (hids c List.mem_cons_self)
      obtain ⟨after, hrun, hcopied⟩ := ih hcs.tail (hkept.available h) (sources_tail hids hkept)
      have hreport := reportOf_congr fun c' hc' => hkept.documents _ ⟨c', hc', .inl rfl⟩
      refine ⟨after, ?_, fun c' hc' => ?_⟩
      · show (copy (ends c).1 (ends c).2 >>= fun count => copyAll ends rest >>= fun report =>
          pure (report.cons c count)).run db = _
        rw [Script.run_bind_ok hfirst, Script.run_bind_ok hrun, Script.run_pure, hreport]
        rfl
      · rcases List.mem_cons.mp hc' with rfl | hrest
        · have hlater := hcs.spares_target.alike_run middle
          rw [hrun] at hlater
          exact (hlater.documents _ rfl).trans htarget
        · rw [hcopied c' hrest, hkept.documents _ ⟨c', hrest, .inl rfl⟩,
            hkept.documents _ ⟨c', hrest, .inr rfl⟩]

/-- A row of copies that is cut short leaves every target begun. -/
theorem stop_copyAll {cs : List String} (hcs : Apart ends cs) {db : Database} (h : db.Available)
    (hids : ∀ c ∈ cs, DistinctIds (db.documents (ends c).1)) (n : Nat) :
    ∀ c ∈ cs, Begun (db.documents (ends c).1) (db.documents (ends c).2)
      (((copyAll ends cs).stop n db).documents (ends c).2) := by
  induction cs generalizing db n with
  | nil => exact fun c hc => absurd hc List.not_mem_nil
  | cons c rest ih =>
      obtain ⟨middle, hfirst, htarget, hkept⟩ :=
        hcs.run_head (copyFault?_of_available h _ _) (hids c List.mem_cons_self)
      refine Script.stop_bind (P := fun left => ∀ c' ∈ c :: rest,
        Begun (db.documents (ends c').1) (db.documents (ends c').2) (left.documents (ends c').2))
        (f := fun count => copyAll ends rest >>= fun report => pure (report.cons c count))
        hfirst (fun n c' hc' => ?_) (fun m c' hc' => ?_) n
      · rcases List.mem_cons.mp hc' with rfl | hrest
        · exact stop_copy h (hids c' List.mem_cons_self) n
        · rw [(hcs.spares_later.alike_stop n db).documents _ ⟨c', hrest, .inr rfl⟩]
          exact .untouched
      · rw [Script.stop_bind_pure]
        rcases List.mem_cons.mp hc' with rfl | hrest
        · rw [(hcs.spares_target.alike_stop m middle).documents _ rfl, htarget]
          exact begun_copied _ _
        · have hbegun := ih hcs.tail (hkept.available h) (sources_tail hids hkept) m c' hrest
          rwa [hkept.documents _ ⟨c', hrest, .inl rfl⟩,
            hkept.documents _ ⟨c', hrest, .inr rfl⟩] at hbegun

end Row

end Migration

end ProviderRegistry
