/-!
# Maps by name

Values under distinct names, listed in the order of the names' characters.
-/

namespace VirtualLab

abbrev NameMap (α : Type) := List (String × α)

namespace NameMap

variable {α : Type}

def get? (map : NameMap α) (name : String) : Option α := map.lookup name

def insert (name : String) (value : α) : NameMap α → NameMap α
  | [] => [(name, value)]
  | (other, present) :: rest =>
    if name = other then (name, value) :: rest
    else if name < other then (name, value) :: (other, present) :: rest
    else (other, present) :: insert name value rest

def erase (name : String) (map : NameMap α) : NameMap α := map.filter (·.1 != name)

end NameMap

end VirtualLab
