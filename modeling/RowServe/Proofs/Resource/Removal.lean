import Mathlib.Algebra.Ring.Int.Defs
import RowServe.Proofs.Declaration.Plain
import RowServe.Proofs.Resource.Parts
import RowServe.Proofs.Resource.Uses
import RowServe.Proofs.Ways
import RowServe.Resource.Rows

/-!
# Deletes

What a delete asks of the store, whatever the store answers. A delete with nothing to look
after is one statement. Any other is a transaction, and it is committed only if it gave the
keys of the deleted rows and, where other tables had to be looked after, these keys were
removed from them. All other deletes fail and change nothing.

Results:

* `way_inTransaction`: how a transaction goes.
* `remove_all_or_nothing`: all the ways that a delete can go.
-/

namespace RowServe

open Plan (Event Way)
open Sql.Template (Plain)

/-- What happens at the store. -/
abbrev StoreEvents := List (Event StoreAction.interface)

namespace StorePlan

variable {α : Type} {events : StoreEvents}

theorem way_query {c : Sql.Command} {read : Reply → Except RequestError α}
    {result : Except RequestError α} :
    (query c read).Way events (some result) ↔
      ∃ reply, events = [⟨.run c, reply⟩] ∧ result = read reply := by
  simp only [query, Plan.way_act, Plan.way_ofExcept, Plan.upTo_some, reduceCtorEq, and_false,
    false_or]
  constructor
  · rintro ⟨reply, _, rfl, rfl, h⟩
    exact ⟨reply, rfl, h⟩
  · rintro ⟨reply, rfl, h⟩
    exact ⟨reply, [], rfl, rfl, h⟩

/-- A statement and what is made of its reply. -/
theorem way_query_bind {β : Type} {c : Sql.Command} {read : Reply → Except RequestError α}
    {f : α → StorePlan β} {result : Except RequestError β} :
    ((query c read).bind f).Way events (some result) ↔
      (∃ reply e, events = [⟨.run c, reply⟩] ∧ read reply = .error e ∧ result = .error e) ∨
      ∃ reply a rest, events = ⟨.run c, reply⟩ :: rest ∧ read reply = .ok a ∧
        (f a).Way rest (some result) := by
  simp only [Plan.way_bind, way_query, reduceCtorEq, false_and, false_or, Option.some.injEq]
  constructor
  · rintro (⟨e, rfl, reply, rfl, h⟩ | ⟨a, _, rest, rfl, ⟨reply, rfl, h⟩, hrest⟩)
    · exact .inl ⟨reply, e, rfl, h.symm, rfl⟩
    · exact .inr ⟨reply, a, rest, rfl, h.symm, hrest⟩
  · rintro (⟨reply, e, rfl, h, rfl⟩ | ⟨reply, a, rest, rfl, h, hrest⟩)
    · exact .inl ⟨e, rfl, reply, rfl, h.symm⟩
    · exact .inr ⟨a, _, rest, rfl, ⟨reply, rfl, h.symm⟩, hrest⟩

/-- An answer that is an error of the store, as the error of a request. -/
def settled (answer : Except StoreError Unit) (a : α) : Except RequestError α :=
  match answer with
  | .ok () => .ok a
  | .error e => .error (.store e)

/-- How a transaction is closed, by the result of its steps. -/
inductive Closed : Except RequestError α → StoreEvents → Except RequestError α → Prop where
  | commit (a : α) (answer : Except StoreError Unit) :
      Closed (.ok a) [⟨.commit, answer⟩] (settled answer a)
  /-- The connection is given up. -/
  | abandon : Closed (.error .timeout) [] (.error .timeout)
  | rollback {e : RequestError} (h : e ≠ .timeout) : Closed (.error e) [⟨.rollback, ()⟩] (.error e)

theorem closeTransaction_ok (a : α) :
    closeTransaction (.ok a) = .act .commit fun answer => .ofExcept (settled answer a) := by
  refine congrArg (Plan.act (I := StoreAction.interface) StoreAction.commit) ?_
  funext answer
  cases answer <;> rfl

theorem closeTransaction_error {e : RequestError} (he : e ≠ .timeout) :
    closeTransaction (.error e : Except RequestError α) = .act .rollback fun _ => .fail e := by
  cases e with
  | timeout => exact absurd rfl he
  | _ => rfl

theorem way_close {known result : Except RequestError α} :
    (closeTransaction known).Way events (some result) ↔ Closed known events result := by
  constructor
  · intro h
    match known with
    | .ok a =>
      rw [closeTransaction_ok] at h
      obtain ⟨_, hend⟩ | ⟨answer, rest, rfl, hrest⟩ := Plan.way_act.mp h
      · contradiction
      · obtain ⟨rfl, hend⟩ := Plan.way_ofExcept.mp hrest
        rw [Plan.upTo_some.mp hend]
        exact .commit a answer
    | .error e =>
      by_cases he : e = .timeout
      · subst he
        obtain ⟨rfl, hend⟩ := Plan.way_fail.mp h
        rw [Plan.upTo_some.mp hend]
        exact .abandon
      · rw [closeTransaction_error he] at h
        obtain ⟨_, hend⟩ | ⟨_, rest, rfl, hrest⟩ := Plan.way_act.mp h
        · contradiction
        · obtain ⟨rfl, hend⟩ := Plan.way_fail.mp hrest
          rw [Plan.upTo_some.mp hend]
          exact .rollback he
  · intro h
    cases h with
    | commit a answer =>
      rw [closeTransaction_ok]
      exact Plan.way_act.mpr (.inr ⟨answer, [], rfl, Plan.way_ofExcept.mpr ⟨rfl, .inr rfl⟩⟩)
    | abandon => exact .fail _
    | rollback he =>
      rw [closeTransaction_error he]
      exact Plan.way_act.mpr (.inr ⟨(), [], rfl, .fail _⟩)

/-- A transaction that cannot be begun fails. Otherwise it is closed by the result of its
    steps. -/
theorem way_inTransaction {steps : StorePlan α} {result : Except RequestError α} :
    (inTransaction steps).Way events (some result) ↔
      (∃ e, events = [⟨.beginTransaction, .error e⟩] ∧ result = .error (.store e)) ∨
      ∃ own known rest, events = ⟨.beginTransaction, .ok ()⟩ :: (own ++ rest) ∧
        steps.Way own (some known) ∧ Closed known rest result := by
  constructor
  · intro h
    obtain ⟨_, hend⟩ | ⟨answer, rest, rfl, hrest⟩ := Plan.way_act.mp h
    · contradiction
    · cases answer with
      | error e =>
        obtain ⟨rfl, hend⟩ := Plan.way_fail.mp hrest
        exact .inl ⟨e, rfl, (Plan.upTo_some.mp hend)⟩
      | ok _ =>
        obtain ⟨hend, _⟩ | ⟨e, _, hfirst⟩ | ⟨known, own, last, rfl, hfirst, hlast⟩ :=
          Plan.way_bind.mp (show (steps.attempt.bind closeTransaction).Way _ _ from hrest)
        · contradiction
        · obtain ⟨hend, _⟩ | ⟨known, hend, _⟩ := Plan.way_attempt.mp hfirst
          · contradiction
          · simp at hend
        · obtain ⟨hend, _⟩ | ⟨known', hend, hsteps⟩ := Plan.way_attempt.mp hfirst
          · contradiction
          · obtain rfl := Except.ok.inj (Option.some.inj hend)
            exact .inr ⟨own, known, last, rfl, hsteps, way_close.mp hlast⟩
  · rintro (⟨e, rfl, rfl⟩ | ⟨own, known, rest, rfl, hsteps, hclosed⟩)
    · exact Plan.way_act.mpr (.inr ⟨.error e, [], rfl, .fail _⟩)
    · refine Plan.way_act.mpr (.inr ⟨.ok (), own ++ rest, rfl, ?_⟩)
      show (steps.attempt.bind closeTransaction).Way _ _
      exact Plan.way_bind.mpr
        (.inr (.inr ⟨known, own, rest, rfl, hsteps.attempt, way_close.mpr hclosed⟩))

end StorePlan

/-! ## Replies -/

namespace Reply

/-- The reply is an array of keys that is not empty. -/
def Gives (reply : Reply) (keys : List Json) : Prop :=
  reply = .row (.json (.arr keys)) ∧ keys ≠ []

/-- The reply is an object of these 64-bit integers. -/
def Counts (reply : Reply) (counts : List Int) : Prop :=
  ∃ entries, reply = .row (.json (.obj entries)) ∧
    List.Forall₂ (fun entry n => entry.2.asSigned64? = some n) entries counts

theorem value_eq_some {reply : Reply} {v : Json} :
    reply.value = .ok (some v) ↔ reply = .row (.json v) := by
  cases reply with
  | row first => cases first <;> simp [value, row?, bind, Except.bind, pure, Except.pure, throw,
      throwThe, MonadExceptOf.throw]
  | noRow | failed _ | timedOut | unavailable =>
    simp [value, row?, bind, Except.bind, pure, Except.pure]

theorem keys_ok {reply : Reply} {keys : List Json} :
    reply.value.bind Resource.deletedKeys = .ok keys ↔ reply.Gives keys := by
  refine bind_eq_ok.trans ?_
  constructor
  · rintro ⟨v, hv, hkeys⟩
    unfold Resource.deletedKeys at hkeys
    split at hkeys
    · obtain rfl := Except.ok.inj hkeys
      exact ⟨value_eq_some.mp hv, List.cons_ne_nil _ _⟩
    · contradiction
  · rintro ⟨hreply, hkeys⟩
    obtain ⟨key, rest, rfl⟩ := List.exists_cons_of_ne_nil hkeys
    exact ⟨_, value_eq_some.mpr hreply, rfl⟩

end Reply

namespace CleanupReport

theorem counts_eq_some {entries : List (String × Json)} {counts : Keyed Int} :
    counts? entries = some counts ↔
      List.Forall₂ (fun entry e => entry.1 = e.1 ∧ entry.2.asSigned64? = some e.2) entries
        counts := by
  induction entries generalizing counts with
  | nil => simp [counts?, List.forall₂_nil_left_iff, eq_comm]
  | cons entry entries ih =>
    obtain ⟨k, v⟩ := entry
    rw [List.forall₂_cons_left_iff]
    constructor
    · intro h
      obtain ⟨n, hn, h⟩ := Option.bind_eq_some_iff.mp h
      obtain ⟨others, hothers, h⟩ := Option.bind_eq_some_iff.mp h
      exact ⟨(k, n), others, ⟨rfl, hn⟩, ih.mp hothers, (Option.some.inj h).symm⟩
    · rintro ⟨⟨_, n⟩, others, ⟨rfl, hn⟩, hothers, rfl⟩
      exact Option.bind_eq_some_iff.mpr
        ⟨n, hn, Option.bind_eq_some_iff.mpr ⟨others, ih.mpr hothers, rfl⟩⟩

/-- The values of a summary that are counts, in the order of its entries. -/
theorem exists_counts {entries : List (String × Json)} {counts : List Int} :
    List.Forall₂ (fun entry n => entry.2.asSigned64? = some n) entries counts ↔
      ∃ report, counts? entries = some report ∧ report.map (·.2) = counts := by
  constructor
  · intro h
    induction h with
    | nil => exact ⟨[], rfl, rfl⟩
    | @cons entry n entries counts hn _ ih =>
      obtain ⟨report, hreport, rfl⟩ := ih
      refine ⟨(entry.1, n) :: report, counts_eq_some.mpr (.cons ⟨rfl, hn⟩ ?_), rfl⟩
      exact counts_eq_some.mp hreport
  · rintro ⟨report, hreport, rfl⟩
    rw [List.forall₂_map_right_iff]
    exact (counts_eq_some.mp hreport).imp fun _ _ h => h.2

theorem total_eq (report : CleanupReport) : report.total = (report.perColumn.map (·.2)).sum := by
  unfold total
  rw [List.sum_eq_foldl, List.foldl_map]

end CleanupReport

/-- A clean-up has a result exactly if it is answered with counts, and this is their sum. -/
theorem Reply.references_ok {reply : Reply} {n : Int} :
    reply.value.bind Resource.referencesIn = .ok n ↔
      ∃ counts, reply.Counts counts ∧ n = counts.sum := by
  refine bind_eq_ok.trans ?_
  constructor
  · rintro ⟨v, hv, hn⟩
    unfold Resource.referencesIn at hn
    split at hn
    · rename_i report hreport
      obtain ⟨v, rfl, hsummary⟩ := Option.bind_eq_some_iff.mp hreport
      unfold CleanupReport.ofSummary? at hsummary
      split at hsummary
      · rename_i entries
        obtain ⟨counts, hcounts, rfl⟩ := Option.map_eq_some_iff.mp hsummary
        have hcounted := CleanupReport.exists_counts.mpr ⟨_, hcounts, rfl⟩
        refine ⟨_, ⟨entries, value_eq_some.mp hv, hcounted⟩, ?_⟩
        rw [← Except.ok.inj hn, CleanupReport.total_eq]
      · contradiction
    · contradiction
  · rintro ⟨counts, ⟨entries, hreply, hcounts⟩, rfl⟩
    obtain ⟨report, hreport, rfl⟩ := CleanupReport.exists_counts.mp hcounts
    refine ⟨_, value_eq_some.mpr hreply, ?_⟩
    simp [Resource.referencesIn, CleanupReport.ofSummary?, hreport, CleanupReport.total_eq]

/-! ## Deletes -/

namespace Resource

open StorePlan (Closed settled)

/-- What a counted delete gives; there has to be a row. -/
def counted (n : Int) : Except RequestError Deletion :=
  if n = 0 then .error .nothingDeleted else .ok ⟨n, 0⟩

variable (r : Resource) (filter : Object)

/-- A delete of one statement. -/
inductive Alone : StoreEvents → Except RequestError Deletion → Prop where
  /-- There is no statement for the filter. -/
  | unwritten {e : RequestError} (h : r.deleteCommand r.templates.delete filter = .error e) :
      Alone [] (.error e)
  | run {cmd : Sql.Command} (h : r.deleteCommand r.templates.delete filter = .ok cmd)
      (reply : Reply) : Alone [⟨.run cmd, reply⟩] (reply.count.bind counted)

variable (deep : Bool)

/-- What is done for other tables, and how many of their rows had deleted keys. -/
inductive Cleaned (keys : List Json) : StoreEvents → Int → Prop where
  | spared (h : deep = false ∨ r.dependents = []) : Cleaned keys [] 0
  | cleaned {text : String} {reply : Reply} {counts : List Int} (hdeep : deep = true)
      (hdependents : r.dependents ≠ []) (htext : cleanupStatement r.dependents = some text)
      (hcounts : reply.Counts counts) :
      Cleaned keys [⟨.run ⟨text, [.json (.arr keys)]⟩, reply⟩] counts.sum

/-- A delete in a transaction. -/
inductive Together : StoreEvents → Except RequestError Deletion → Prop where
  /-- There is no statement for the filter. -/
  | unwritten {e : RequestError} (h : r.deleteCommand r.templates.deleteDeep filter = .error e) :
      Together [] (.error e)
  /-- The transaction cannot be begun. -/
  | unopened {cmd : Sql.Command} (h : r.deleteCommand r.templates.deleteDeep filter = .ok cmd)
      (e : StoreError) : Together [⟨.beginTransaction, .error e⟩] (.error (.store e))
  /-- The delete gives no keys. -/
  | keyless {cmd : Sql.Command} (h : r.deleteCommand r.templates.deleteDeep filter = .ok cmd)
      {reply : Reply} (hno : ∀ keys, ¬ reply.Gives keys) {e : RequestError}
      {closing : StoreEvents} {result : Except RequestError Deletion}
      (hclosed : Closed (.error e) closing result) :
      Together (⟨.beginTransaction, .ok ()⟩ :: ⟨.run cmd, reply⟩ :: closing) result
  /-- The clean-up gives no counts. -/
  | uncounted {cmd : Sql.Command} (h : r.deleteCommand r.templates.deleteDeep filter = .ok cmd)
      {reply reply' : Reply} {keys : List Json} (hkeys : reply.Gives keys) (hdeep : deep = true)
      (hdependents : r.dependents ≠ []) {text : String}
      (htext : cleanupStatement r.dependents = some text)
      (hno : ∀ counts, ¬ reply'.Counts counts) {e : RequestError} {closing : StoreEvents}
      {result : Except RequestError Deletion} (hclosed : Closed (.error e) closing result) :
      Together (⟨.beginTransaction, .ok ()⟩ :: ⟨.run cmd, reply⟩ ::
        ⟨.run ⟨text, [.json (.arr keys)]⟩, reply'⟩ :: closing) result
  /-- All is done, and the transaction is committed. -/
  | committed {cmd : Sql.Command} (h : r.deleteCommand r.templates.deleteDeep filter = .ok cmd)
      {reply : Reply} {keys : List Json} (hkeys : reply.Gives keys) {cleanup : StoreEvents}
      {references : Int} (hcleaned : r.Cleaned deep keys cleanup references)
      (answer : Except StoreError Unit) :
      Together (⟨.beginTransaction, .ok ()⟩ :: ⟨.run cmd, reply⟩ ::
        (cleanup ++ [⟨.commit, answer⟩])) (settled answer ⟨keys.length, references⟩)

variable {r filter deep}

theorem remove_alone {events : StoreEvents} {result : Except RequestError Deletion}
    (hdeep : deep = false) (hdependents : r.dependents = [])
    (h : (r.remove filter deep).Way events (some result)) : r.Alone filter events result := by
  subst hdeep
  rw [remove_single hdependents, countOf, Plan.bind_assoc] at h
  obtain ⟨cmd, hcmd, hrun⟩ | ⟨e, he, rfl, hend⟩ := Plan.way_ofExcept_bind.mp h
  · obtain ⟨reply, e, rfl, hreply, rfl⟩ | ⟨reply, n, rest, rfl, hreply, hrest⟩ :=
      StorePlan.way_query_bind.mp hrun
    · have halone := Alone.run hcmd reply
      rw [hreply] at halone
      exact halone
    · have halone := Alone.run hcmd reply
      rw [hreply] at halone
      split_ifs at hrest with hn
      · obtain ⟨rfl, hend⟩ := Plan.way_fail.mp hrest
        rw [Plan.upTo_some.mp hend]
        simpa [counted, hn, Except.bind] using halone
      · obtain ⟨rfl, hend⟩ := Plan.way_done.mp hrest
        rw [Plan.upTo_some.mp hend]
        simpa [counted, hn, Except.bind] using halone
  · rw [Plan.upTo_some.mp hend]
    exact .unwritten he

/-- There is something to clean up exactly if other tables refer to the rows. -/
theorem cleanupStatement_eq_none {ds : List Dependent} : cleanupStatement ds = none ↔ ds = [] := by
  unfold cleanupStatement
  cases ds with
  | nil => simp
  | cons d ds => simp

/-- The clean-up after a delete: it is spared, it succeeds, or it gives no counts. -/
theorem way_cleanup (hcleanup : r.templates.cleanup = cleanupStatement r.dependents)
    {keys : List Json} {events : StoreEvents} {result : Except RequestError Int}
    (h : (if deep then r.prune keys else .done 0).Way events (some result)) :
    (∃ references, result = .ok references ∧ r.Cleaned deep keys events references) ∨
      (deep = true ∧ r.dependents ≠ [] ∧ ∃ text reply e,
        cleanupStatement r.dependents = some text ∧ (∀ counts, ¬ reply.Counts counts) ∧
        events = [⟨.run ⟨text, [.json (.arr keys)]⟩, reply⟩] ∧ result = .error e) := by
  split_ifs at h with hdeep
  · cases htext : cleanupStatement r.dependents with
    | none =>
      simp only [prune, cleanupCommand?, hcleanup, htext, Option.map_none] at h
      obtain ⟨rfl, hend⟩ := Plan.way_done.mp h
      exact .inl ⟨0, Plan.upTo_some.mp hend, .spared (.inr (cleanupStatement_eq_none.mp htext))⟩
    | some text =>
      have hdependents : r.dependents ≠ [] := fun hno => by
        simp [cleanupStatement_eq_none.mpr hno] at htext
      simp only [prune, cleanupCommand?, hcleanup, htext, Option.map_some] at h
      obtain ⟨reply, e, rfl, hreply, rfl⟩ | ⟨reply, v, rest, rfl, hreply, hrest⟩ :=
        StorePlan.way_query_bind.mp h
      · refine .inr ⟨hdeep, hdependents, text, reply, e, rfl, fun counts hcounts => ?_, rfl, rfl⟩
        have hok := Reply.references_ok.mpr ⟨counts, hcounts, rfl⟩
        rw [hreply] at hok
        contradiction
      · obtain ⟨rfl, hend⟩ := Plan.way_ofExcept.mp hrest
        have hknown : reply.value.bind referencesIn = result := by
          rw [hreply]
          exact (Plan.upTo_some.mp hend).symm
        cases result with
        | ok references =>
          obtain ⟨counts, hcounts, rfl⟩ := Reply.references_ok.mp hknown
          exact .inl ⟨_, rfl, .cleaned hdeep hdependents htext hcounts⟩
        | error e =>
          refine .inr ⟨hdeep, hdependents, text, reply, e, rfl, fun counts hcounts => ?_, rfl, rfl⟩
          rw [Reply.references_ok.mpr ⟨counts, hcounts, rfl⟩] at hknown
          contradiction
  · obtain ⟨rfl, hend⟩ := Plan.way_done.mp h
    exact .inl ⟨0, Plan.upTo_some.mp hend, .spared (.inl (by simpa using hdeep))⟩

theorem remove_together (hcleanup : r.templates.cleanup = cleanupStatement r.dependents)
    {events : StoreEvents} {result : Except RequestError Deletion}
    (hmore : ¬ (deep = false ∧ r.dependents = []))
    (h : (r.remove filter deep).Way events (some result)) :
    r.Together filter deep events result := by
  unfold remove at h
  rw [if_neg (by simpa using hmore)] at h
  obtain ⟨cmd, hcmd, hrun⟩ | ⟨e, he, rfl, hend⟩ := Plan.way_ofExcept_bind.mp h
  · obtain ⟨e, rfl, rfl⟩ | ⟨own, known, closing, rfl, hsteps, hclosed⟩ :=
      StorePlan.way_inTransaction.mp hrun
    · exact .unopened hcmd e
    · obtain ⟨reply, e, rfl, hreply, rfl⟩ | ⟨reply, keys, rest, rfl, hreply, hrest⟩ :=
        StorePlan.way_query_bind.mp hsteps
      · refine .keyless hcmd (fun keys hkeys => ?_) hclosed
        rw [Reply.keys_ok.mpr hkeys] at hreply
        contradiction
      · have hkeys := Reply.keys_ok.mp hreply
        obtain ⟨hend, _⟩ | ⟨e, hend, hclean⟩ | ⟨n, cleanup, last, rfl, hclean, hlast⟩ :=
          Plan.way_bind.mp hrest
        · contradiction
        · obtain ⟨_, hok, _⟩ | ⟨hdeep, hdependents, text, reply', e', htext, hno, rfl, _⟩ :=
            way_cleanup hcleanup hclean
          · contradiction
          · obtain rfl := Option.some.inj hend
            exact .uncounted hcmd hkeys hdeep hdependents htext hno hclosed
        · obtain ⟨references, hok, hcleaned⟩ | ⟨_, _, _, _, e', _, _, _, hno⟩ :=
            way_cleanup hcleanup hclean
          · obtain rfl := Except.ok.inj hok
            obtain ⟨rfl, hend⟩ := Plan.way_done.mp hlast
            obtain rfl := Plan.upTo_some.mp hend
            cases hclosed with
            | commit _ answer =>
              rw [List.append_nil]
              exact .committed hcmd hkeys hcleaned answer
          · contradiction
  · rw [Plan.upTo_some.mp hend]
    exact .unwritten he

/-! ## Resources of a registry -/

/-- Names without braces leave room for every filter. -/
theorem deleteCommand_plain {view : TableView} (ht : Plain view.table) (hk : Plain view.pk)
    {hidden : Option String} {dependents : List Dependent} {templates : Templates}
    (h : Statement.templates view hidden dependents = .ok templates) (r : Resource)
    (filter : Object) :
    ∀ t ∈ [templates.delete, templates.deleteDeep], ∃ cmd, r.deleteCommand t filter = .ok cmd := by
  rw [Statement.templates_plain view ht hk] at h
  rw [← Except.ok.inj h]
  simp only [List.forall_mem_cons]
  exact ⟨⟨_, rfl⟩, ⟨_, rfl⟩, fun _ h => absurd h List.not_mem_nil⟩

variable {ds : Declarations} {g : Registry}

/-- A delete of a resource, for any filter and any answers. There is a statement for every
    filter unless a name with a brace spoils it. With nothing to look after it is one
    statement; otherwise it is a transaction that is committed only after the keys of all
    deleted rows came and were removed wherever they had to be. -/
theorem remove_all_or_nothing (hg : ds.resolve = .ok g) (hr : r ∈ g.resources) (filter : Object)
    (deep : Bool) :
    (Plain r.table → Plain r.pk → ∀ t ∈ [r.templates.delete, r.templates.deleteDeep],
      ∃ cmd, r.deleteCommand t filter = .ok cmd) ∧
    ∀ {events : StoreEvents} {result : Except RequestError Deletion},
      (r.remove filter deep).Way events (some result) →
        (deep = false ∧ r.dependents = [] → r.Alone filter events result) ∧
        (¬ (deep = false ∧ r.dependents = []) → r.Together filter deep events result) := by
  obtain ⟨d, _, hd⟩ := Compile.mem_resolved hg hr
  obtain ⟨p, templates, _, htemplates, rfl⟩ := Compile.resource_ok_iff.mp hd
  have hcleanup := (Statement.templates_ok_iff.mp htemplates).cleanup
  refine ⟨fun ht hk => deleteCommand_plain ht hk htemplates _ filter, fun h => ⟨?_, ?_⟩⟩
  · rintro ⟨hdeep, hdependents⟩
    exact remove_alone hdeep hdependents h
  · intro hmore
    refine remove_together ?_ hmore h
    exact hcleanup

/-- Posts that list the keys of their tags. -/
def tagged : Declarations :=
  [.plain "Tag" "tag" [.key "id"],
    .plain "Post" "post" [.key "id",
      { FieldDecl.plain "tags" .list (some (.simple "jsonb")) with
        items := some .integer, references := some "tag.id", many := true }]]

/-- The tag to delete. -/
def firstTag : Object := [("id", .ofInt 1)]

/-- One tag is deleted, and removed from the two posts that had it. -/
def firstTagEvents (cmd : Sql.Command) (text : String) : StoreEvents :=
  [⟨.beginTransaction, .ok ()⟩, ⟨.run cmd, .row (.json (.arr [.ofInt 1]))⟩,
    ⟨.run ⟨text, [.json (.arr [.ofInt 1])]⟩, .row (.json (.obj [("post.tags", .ofInt 2)]))⟩,
    ⟨.commit, .ok ()⟩]

theorem remove_all_or_nothing_tags :
    ∃ g, tagged.resolve = .ok g ∧ ∃ r ∈ g.resources, r.dependents = [⟨"post", "tags", "id"⟩] ∧
      ∃ cmd text, r.deleteCommand r.templates.deleteDeep firstTag = .ok cmd ∧
        cleanupStatement r.dependents = some text ∧
        (r.remove firstTag true).Way (firstTagEvents cmd text) (some (.ok ⟨1, 2⟩)) ∧
        r.Together firstTag true (firstTagEvents cmd text) (.ok ⟨1, 2⟩) := by
  obtain ⟨g, hg, r, hr, hP⟩ := Compile.exists_resolved tagged
    (fun r => r.dependents = [⟨"post", "tags", "id"⟩] ∧
      (r.deleteCommand r.templates.deleteDeep firstTag).toOption.isSome = true ∧
      r.templates.cleanup = cleanupStatement r.dependents)
    (by decide +kernel) (by decide +kernel)
  obtain ⟨hdependents, hcmd, hcleanup⟩ := of_decide_eq_true hP
  obtain ⟨cmd, hcmd⟩ := Option.isSome_iff_exists.mp hcmd
  have hcmd := toOption_eq_some.mp hcmd
  obtain ⟨text, htext⟩ : ∃ text, cleanupStatement r.dependents = some text := by
    rw [hdependents]
    exact ⟨_, rfl⟩
  have hway : (r.remove firstTag true).Way (firstTagEvents cmd text) (some (.ok ⟨1, 2⟩)) := by
    unfold remove
    rw [if_neg (by simp)]
    refine Plan.way_ofExcept_bind.mpr (.inl ⟨cmd, hcmd, StorePlan.way_inTransaction.mpr (.inr ?_)⟩)
    refine ⟨[_, _], .ok ⟨1, 2⟩, [⟨.commit, .ok ()⟩], rfl, ?_, .commit _ (.ok ())⟩
    refine StorePlan.way_query_bind.mpr (.inr ⟨_, [.ofInt 1], _, rfl, rfl, ?_⟩)
    refine Plan.way_bind.mpr (.inr (.inr ⟨2, [_], [], rfl, ?_, .done _⟩))
    simp only [prune, cleanupCommand?, hcleanup, htext, Option.map_some, if_true]
    exact StorePlan.way_query_bind.mpr (.inr ⟨_, _, [], rfl, rfl, .done 2⟩)
  refine ⟨g, hg, r, hr, hdependents, cmd, text, hcmd, htext, hway, ?_⟩
  exact ((remove_all_or_nothing hg hr firstTag true).2 hway).2 (by simp)

end Resource

end RowServe
