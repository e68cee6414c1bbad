/-! Values to be written as YAML. -/
namespace FacetSearch.Yaml

inductive Value
  | null
  | bool (b : Bool)
  | string (s : String)
  | sequence (items : List Value)
  | mapping (entries : List (String × Value))
  deriving Inhabited

namespace Value

mutual
def decEq : (v w : Value) → Decidable (v = w)
  | null, null => isTrue rfl
  | bool b, bool b' => if h : b = b' then isTrue (by rw [h]) else isFalse (by simp [h])
  | string s, string s' => if h : s = s' then isTrue (by rw [h]) else isFalse (by simp [h])
  | sequence vs, sequence ws =>
    match decEqItems vs ws with
    | isTrue h => isTrue (by rw [h])
    | isFalse h => isFalse (by simp [h])
  | mapping es, mapping fs =>
    match decEqEntries es fs with
    | isTrue h => isTrue (by rw [h])
    | isFalse h => isFalse (by simp [h])
  | null, bool _ | null, string _ | null, sequence _ | null, mapping _
  | bool _, null | bool _, string _ | bool _, sequence _ | bool _, mapping _
  | string _, null | string _, bool _ | string _, sequence _ | string _, mapping _
  | sequence _, null | sequence _, bool _ | sequence _, string _ | sequence _, mapping _
  | mapping _, null | mapping _, bool _ | mapping _, string _ | mapping _, sequence _ =>
    isFalse (by simp)

def decEqItems : (vs ws : List Value) → Decidable (vs = ws)
  | [], [] => isTrue rfl
  | v :: vs, w :: ws =>
    match decEq v w, decEqItems vs ws with
    | isTrue h, isTrue h' => isTrue (by rw [h, h'])
    | isFalse h, _ => isFalse (by simp [h])
    | _, isFalse h => isFalse (by simp [h])
  | [], _ :: _ => isFalse (by simp)
  | _ :: _, [] => isFalse (by simp)

def decEqEntries : (es fs : List (String × Value)) → Decidable (es = fs)
  | [], [] => isTrue rfl
  | (key, v) :: es, (key', w) :: fs =>
    match decEq v w, decEqEntries es fs with
    | isTrue h, isTrue h' =>
      if hkey : key = key' then isTrue (by rw [h, h', hkey]) else isFalse (by simp [hkey])
    | isFalse h, _ => isFalse (by simp [h])
    | _, isFalse h => isFalse (by simp [h])
  | [], _ :: _ => isFalse (by simp)
  | _ :: _, [] => isFalse (by simp)
end

instance : DecidableEq Value := decEq

def strings (ss : List String) : Value := sequence (ss.map string)

end Value
end FacetSearch.Yaml
