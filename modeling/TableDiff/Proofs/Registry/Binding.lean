import TableDiff.Proofs.Conversion.Idempotence
import TableDiff.Proofs.Conversion.WrittenValue
import TableDiff.Registry

/-!
# Bound values read back

A value of a UUID or of case-insensitive text is bound as text, and the same type reads that text
back as the value (`convert_bound`). What a conversion to one of the two types gives is null, a UUID
or text, so the adapter has a form for all of it and never fails: values are bound exactly where
they are converted (`bindValue_reads_back`). This takes a registry that prefers the adapter for
these types. Such a registry keeps doing so whatever is registered later, as an adapter is refused
or comes last (`PrefersObjects.registerAdapter`).
-/

namespace TableDiff

namespace DataType

/-- The types whose values the adapter for PostgreSQL objects writes. -/
def IsObject (t : DataType) : Prop := t = uuid ∨ t = citext

variable {t : DataType} {v w : Value}

theorem supports_iff : DriverAdapter.postgresObject.supports t = true ↔ t.IsObject := by
  simp [DriverAdapter.postgresObject, IsObject]

theorem convert_null (t : DataType) : t.convert .null = .ok .null := rfl

theorem convert_uuid_eq_ok (hv : v ≠ .null) (h : uuid.convert v = .ok w) : ∃ u, w = .uuid u := by
  have hnull : v.isNull = false := by cases v <;> first | rfl | exact absurd rfl hv
  rw [convert, hnull] at h
  obtain ⟨u, -, rfl⟩ := map_eq_ok.1 (mapError_eq_ok.1 h)
  exact ⟨u, rfl⟩

theorem convert_citext_eq (hv : v ≠ .null) : citext.convert v = .ok (.text v.render) := by
  cases v <;> first | rfl | exact absurd rfl hv

/-- A value in the form of one of the types is bound as a text that the type reads back. -/
theorem convert_bound (ht : t.IsObject) (hv : v ≠ .null) (h : t.convert v = .ok w) :
    ∃ s, DriverAdapter.postgresObject.bind t w = .ok (.text s) ∧ t.convert (.text s) = .ok w := by
  rcases ht with rfl | rfl
  · obtain ⟨u, rfl⟩ := convert_uuid_eq_ok hv h
    refine ⟨(Value.uuid u).render, rfl, ?_⟩
    rw [convert, if_neg (by exact Bool.false_ne_true)]
    simp only [family, Value.convertTo, Value.toUuid_render]
    rfl
  · rw [convert_citext_eq hv] at h
    cases h
    exact ⟨v.render, rfl, convert_text rfl v.render⟩

end DataType

/-- The adapter for PostgreSQL objects is the first one of the registry that supports the type. -/
def Registry.PrefersObjects (r : Registry) (t : DataType) : Prop :=
  ∃ before after, r.adapters = before ++ .postgresObject :: after ∧
    ∀ a ∈ before, a.supports t = false

/-- An adapter that is not available is refused; any other one comes last. -/
theorem Registry.registerAdapter_eq_ok_iff {r r' : Registry} {a : DriverAdapter} :
    r.registerAdapter a = .ok r' ↔
      a.unavailable? = none ∧ r' = { r with adapters := r.adapters ++ [a] } := by
  unfold registerAdapter
  cases a.unavailable? with
  | some reason => simp
  | none => simp [eq_comm]

example : ({} : Registry).registerAdapter .missing =
    .error (.adapterUnavailable "missing" "driver library not loaded") := rfl

theorem Registry.PrefersObjects.registerAdapter {r r' : Registry} {t : DataType} {a : DriverAdapter}
    (hr : r.PrefersObjects t) (h : r.registerAdapter a = .ok r') : r'.PrefersObjects t := by
  obtain ⟨before, after, hadapters, hbefore⟩ := hr
  obtain ⟨-, rfl⟩ := Registry.registerAdapter_eq_ok_iff.1 h
  exact ⟨before, after ++ [a], by simp [hadapters], hbefore⟩

theorem Registry.PrefersObjects.bindValue_eq {r : Registry} {t : DataType} (hr : r.PrefersObjects t)
    (ht : t.IsObject) (v : Value) :
    r.bindValue (.plain t) v = t.convert v >>= DriverAdapter.postgresObject.bind t := by
  obtain ⟨before, after, hadapters, hbefore⟩ := hr
  have hadapter : r.adapterFor? t = some .postgresObject := by
    rw [adapterFor?, hadapters, List.find?_append,
      List.find?_eq_none.2 fun a ha => by rw [hbefore a ha]; exact Bool.false_ne_true,
      Option.none_or, List.find?_cons, DataType.supports_iff.2 ht]
  unfold bindValue
  simp only [LogicalType.dataType, hadapter]
  rfl

/-- **A value is bound exactly where it is converted, and as a text that reads back**; null is bound
as null. -/
theorem bindValue_reads_back {r : Registry} {t : DataType} (hr : r.PrefersObjects t)
    (ht : t.IsObject) (v : Value) :
    ((∃ b, r.bindValue (.plain t) v = .ok b) ↔ ∃ w, (LogicalType.plain t).convert v = .ok w) ∧
      (∀ e, r.bindValue (.plain t) v = .error e ↔ (LogicalType.plain t).convert v = .error e) ∧
      (v = .null → r.bindValue (.plain t) v = .ok .null) ∧
      (v ≠ .null → ∀ w, (LogicalType.plain t).convert v = .ok w →
        ∃ s, r.bindValue (.plain t) v = .ok (.text s) ∧
          (LogicalType.plain t).convert (.text s) = .ok w) := by
  have hconvert : (LogicalType.plain t).convert = t.convert := rfl
  rw [hconvert, hr.bindValue_eq ht v]
  by_cases hv : v = .null
  · subst hv
    have hbound : (t.convert .null >>= DriverAdapter.postgresObject.bind t) = .ok .null := by
      rw [DataType.convert_null]
      rfl
    rw [hbound, DataType.convert_null]
    exact ⟨by simp, by simp, fun _ => rfl, fun hne => absurd rfl hne⟩
  cases hw : t.convert v with
  | error e =>
    have hfails : (Except.error e >>= DriverAdapter.postgresObject.bind t) = .error e := rfl
    rw [hfails]
    exact ⟨by simp, by simp, fun h => absurd h hv, by simp⟩
  | ok w =>
    obtain ⟨s, hs, hagain⟩ := DataType.convert_bound ht hv hw
    have hbound : (Except.ok w >>= DriverAdapter.postgresObject.bind t) = .ok (.text s) := hs
    rw [hbound]
    refine ⟨by simp, by simp, fun h => absurd h hv, fun _ w' hw' => ⟨s, rfl, ?_⟩⟩
    rw [hagain, hw']

/-- A registry whose first adapter writes byte strings only. -/
def objectRegistry : Registry where
  adapters := [{ name := "bytes", supports := (· == .varBinary), bind := fun _ v => .ok v },
    .postgresObject]

theorem capitalUuid_reads_back :
    objectRegistry.PrefersObjects .uuid ∧ DataType.uuid.IsObject ∧
      (let v : Value := .text " 67E5504410B1426F9247BB680E5FE0C8 "
       ((∃ b, objectRegistry.bindValue (.plain .uuid) v = .ok b) ↔
          ∃ w, (LogicalType.plain .uuid).convert v = .ok w) ∧
        (∀ e, objectRegistry.bindValue (.plain .uuid) v = .error e ↔
          (LogicalType.plain .uuid).convert v = .error e) ∧
        (v = .null → objectRegistry.bindValue (.plain .uuid) v = .ok .null) ∧
        (v ≠ .null → ∀ w, (LogicalType.plain .uuid).convert v = .ok w →
          ∃ s, objectRegistry.bindValue (.plain .uuid) v = .ok (.text s) ∧
            (LogicalType.plain .uuid).convert (.text s) = .ok w)) := by
  have hprefers : objectRegistry.PrefersObjects .uuid :=
    ⟨[_], [], rfl, List.forall_mem_singleton.2 rfl⟩
  exact ⟨hprefers, .inl rfl, bindValue_reads_back hprefers (.inl rfl) _⟩

end TableDiff
