import SqlCraft.Main
import SqlCraft.Proofs.Client.Transaction
import SqlCraft.Proofs.Filter.Meaning
import SqlCraft.Proofs.Migration.Idempotence
import SqlCraft.Proofs.Migration.Repair
import SqlCraft.Proofs.Mutation.Expansion
import SqlCraft.Proofs.Sql.Token
import SqlCraft.Proofs.Sql.Condition
import SqlCraft.Proofs.Query.Parts
import SqlCraft.Proofs.Query.Where
import SqlCraft.Proofs.Sql.Written
import SqlCraft.Proofs.Mutation.Request
import SqlCraft.Proofs.Filter.Values
import SqlCraft.Proofs.Filter.Change
import SqlCraft.Proofs.Mutation.Tokens
import SqlCraft.Proofs.Mutation.Pairing
import SqlCraft.Proofs.Mutation.Scope
import SqlCraft.Proofs.Query.Change
import SqlCraft.Proofs.Mutation.Change
import SqlCraft.Proofs.Mutation.Outline
import SqlCraft.Proofs.Mutation.Grouping
import SqlCraft.Proofs.Migration.DryRun
import SqlCraft.Proofs.Sql.Reference
import SqlCraft.Proofs.Filter.Tokens
import SqlCraft.Proofs.Query.Tables
import SqlCraft.Proofs.Migration.Saved
import SqlCraft.Proofs.Table.KeyClause
import SqlCraft.Proofs.Migration.Statements
import SqlCraft.Proofs.Migration.Reported
import SqlCraft.Proofs.Migration.Loss
import SqlCraft.Proofs.NameLists
import SqlCraft.Proofs.Table.Literals
import SqlCraft.Proofs.Table.ConstraintName
import SqlCraft.Proofs.Table.KeyName
import SqlCraft.Proofs.Filter.Offence
import SqlCraft.Proofs.Query.Position
import SqlCraft.Proofs.Query.Link
import SqlCraft.Proofs.Query.Offence
import SqlCraft.Proofs.Query.Listing
import SqlCraft.Proofs.Query.Shown
import SqlCraft.Proofs.Query.Joined
import SqlCraft.Proofs.Filter.Collecting
import SqlCraft.Proofs.Mutation.Separation
import SqlCraft.Proofs.Mutation.Offence
import SqlCraft.Proofs.Sql.Merging
import SqlCraft.Proofs.Mutation.Merging
import SqlCraft.Proofs.Table.ParentArray
import SqlCraft.Proofs.Mutation.Columns
import SqlCraft.Proofs.Mutation.Nulls
import SqlCraft.Proofs.Cli.Listing
