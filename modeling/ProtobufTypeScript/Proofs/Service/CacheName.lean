import ProtobufTypeScript.Service.Client

/-!
The names under which the loads of methods are remembered: package, service and method joined by
dots, without the package if it is empty. Where the names of services and methods are not empty and
have no dots, the package, the service and the method can be told from these names, whatever the
package is.
-/

namespace ProtobufTypeScript.Service

open Schema

/-- Whether a name is not empty and has no dot. -/
structure IsUndotted (name : String) : Prop where
  nonempty : name ≠ ""
  free : '.' ∉ name.toList

instance (name : String) : Decidable (IsUndotted name) :=
  decidable_of_iff (name ≠ "" ∧ '.' ∉ name.toList)
    ⟨fun plain => ⟨plain.1, plain.2⟩, fun plain => ⟨plain.nonempty, plain.free⟩⟩

variable {package other : String} {first second : Schema.Service} {method next : Method}

/-- The last dot parts a text in one way. -/
theorem eq_of_append_dot {left right before after : List Char} (free : '.' ∉ before)
    (free' : '.' ∉ after) (same : left ++ '.' :: before = right ++ '.' :: after)
    : left = right ∧ before = after := by
  rcases List.append_eq_append_iff.mp same with ⟨between, rfl, rest⟩ | ⟨between, rfl, rest⟩
  all_goals
    rcases List.cons_eq_append_iff.mp rest with ⟨rfl, rest⟩ | ⟨inner, rfl, rest⟩
    -- Nothing stands between the two dots, or one of the texts after them has the other dot.
    · simp_all
    · simp_all

/-- The path of a service is its name, behind the package and a dot if there is a package.
-/
theorem toList_servicePath (plain : IsUndotted first.name)
    : (servicePath package first).toList
      = if package = "" then first.name.toList
        else package.toList ++ '.' :: first.name.toList := by
  have named := plain.nonempty
  unfold servicePath dotted
  split <;> simp_all

/-- The name of a cache is the path of the service, a dot and the name of the method. -/
theorem toList_cacheName (plain : IsUndotted first.name) (named : method.name ≠ "")
    : (cacheName package first method).toList
      = (servicePath package first).toList ++ '.' :: method.name.toList := by
  have := plain.nonempty
  unfold cacheName servicePath dotted
  by_cases package = "" <;> simp_all

/-- The path of a service has a dot exactly if its package is not empty, and the name of
the service is behind the last one: so a path tells both.
-/
theorem servicePath_inj (plain : IsUndotted first.name) (plain' : IsUndotted second.name)
    (same : servicePath package first = servicePath other second)
    : package = other ∧ first.name = second.name := by
  have texts := congrArg String.toList same
  rw [toList_servicePath plain, toList_servicePath plain'] at texts
  split at texts <;> split at texts
  case isTrue.isTrue empty empty' =>
    exact ⟨empty.trans empty'.symm, String.toList_inj.mp texts⟩
  case isTrue.isFalse => exact absurd (texts ▸ by simp) plain.free
  case isFalse.isTrue => exact absurd (texts ▸ by simp) plain'.free
  case isFalse.isFalse =>
    obtain ⟨packages, names⟩ := eq_of_append_dot plain.free plain'.free texts
    exact ⟨String.toList_inj.mp packages, String.toList_inj.mp names⟩

/-- Names of caches tell packages, services and methods apart, as neither services nor
methods have dots in their names. The last two dots part the name.
-/
theorem cacheName_inj (plain : IsUndotted first.name) (plain' : IsUndotted second.name)
    (named : IsUndotted method.name) (named' : IsUndotted next.name)
    (same : cacheName package first method = cacheName other second next)
    : package = other ∧ first.name = second.name ∧ method.name = next.name := by
  have texts := congrArg String.toList same
  rw [toList_cacheName plain named.nonempty, toList_cacheName plain' named'.nonempty] at texts
  obtain ⟨paths, methods⟩ := eq_of_append_dot named.free named'.free texts
  obtain ⟨packages, services⟩ := servicePath_inj plain plain' (String.toList_inj.mp paths)
  exact ⟨packages, services, String.toList_inj.mp methods⟩

end ProtobufTypeScript.Service
