/-! Ordered tables: entries in the order in which their keys were first given. -/

set_option autoImplicit false

namespace HarvardBench

abbrev Table (α β : Type) := List (α × β)

namespace Table

variable {α β : Type}

def keys (table : Table α β) : List α := table.map Prod.fst

variable [DecidableEq α]

def get? (table : Table α β) (key : α) : Option β :=
  (table.find? fun entry => entry.1 = key).map Prod.snd

/-- Give a key a value. A key that the table has keeps its position. -/
def put : Table α β → α → β → Table α β
  | [], key, value => [(key, value)]
  | (known, old) :: rest, key, value =>
    if known = key then (known, value) :: rest else (known, old) :: put rest key value

def ofPairs (pairs : List (α × β)) : Table α β :=
  pairs.foldl (fun table pair => table.put pair.1 pair.2) []

theorem put_of_not_mem {table : Table α β} {key : α} (value : β) (fresh : key ∉ table.keys) :
    table.put key value = table ++ [(key, value)] := by
  induction table with
  | nil => rfl
  | cons entry rest ih =>
    simp only [keys, List.map_cons, List.mem_cons, not_or] at fresh
    simp only [put, if_neg (Ne.symm fresh.1), List.cons_append, List.cons.injEq, true_and]
    exact ih fresh.2

end Table

end HarvardBench
