import AskTables.Dataset.Basic

/-!
# The sample dataset

Five customers and seven orders, to ask questions about without a dataset of one's own.
-/

namespace AskTables.Dataset

/-- A customer. -/
def customer (id : Int64) (name city : String) (age : Int64) (email : String) : Row :=
  .ofList [("id", .int id), ("name", .text name), ("city", .text city), ("age", .int age),
    ("email", .text email)]

/-- An order. -/
def order (id customerId : Int64) (product : String) (amount : Float) (date : String) : Row :=
  .ofList [("id", .int id), ("customer_id", .int customerId), ("product", .text product),
    ("amount", .float amount), ("date", .text date)]

/-- The customers. -/
def customers : List Row :=
  [customer 1 "Alice Johnson" "London" 28 "alice@example.com",
    customer 2 "Bob Smith" "Paris" 34 "bob@example.com",
    customer 3 "Charlie Brown" "London" 45 "charlie@example.com",
    customer 4 "Diana Wilson" "Berlin" 29 "diana@example.com",
    customer 5 "Edward Davis" "Paris" 52 "edward@example.com"]

/-- The orders. -/
def orders : List Row :=
  [order 1 1 "Laptop" 1200.50 "2024-01-15",
    order 2 2 "Phone" 699.99 "2024-01-18",
    order 3 1 "Headphones" 149.99 "2024-02-01",
    order 4 3 "Tablet" 399.99 "2024-02-05",
    order 5 2 "Watch" 249.99 "2024-02-10",
    order 6 4 "Camera" 899.99 "2024-02-15",
    order 7 5 "Keyboard" 79.99 "2024-03-01"]

/-- The sample. -/
def sample : Dataset := ofList [⟨"customers", customers⟩, ⟨"orders", orders⟩]

end AskTables.Dataset
