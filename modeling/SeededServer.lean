import SeededServer.Main
import SeededServer.Proofs.ConnectionUrl
import SeededServer.Proofs.Custody
import SeededServer.Proofs.ExitStatus
import SeededServer.Proofs.Secrecy
import SeededServer.Proofs.Sessions
import SeededServer.Proofs.SingleShot
import SeededServer.Proofs.Entries
import SeededServer.Proofs.Delivery
import SeededServer.Proofs.Agreement
import SeededServer.Proofs.Shadowing
import SeededServer.Proofs.BadSettings
import SeededServer.Proofs.Backoff
import SeededServer.Proofs.WaitBudget
import SeededServer.Proofs.Retries
import SeededServer.Proofs.SeedFailures
import SeededServer.Proofs.DriverFailures
import SeededServer.Proofs.ProbeVerdict
import SeededServer.Proofs.WaitFailures
import SeededServer.Proofs.Attempts
import SeededServer.Proofs.Aftermath
import SeededServer.Proofs.QuotedNames
import SeededServer.Proofs.PublishedAddresses
import SeededServer.Proofs.SettingsFiles
import SeededServer.Proofs.FileFaults
import SeededServer.Proofs.NullSettings
import SeededServer.Proofs.Messages
