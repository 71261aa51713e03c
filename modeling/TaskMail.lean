import TaskMail.FileTree
import TaskMail.Main
import TaskMail.Plugin
import TaskMail.Proofs.BestEffort
import TaskMail.Proofs.BlankVariables
import TaskMail.Proofs.CallChecks
import TaskMail.Proofs.CallSequence
import TaskMail.Proofs.CommandLine
import TaskMail.Proofs.CompactText
import TaskMail.Proofs.ConfigText
import TaskMail.Proofs.Diagnostics
import TaskMail.Proofs.ExitCode
import TaskMail.Proofs.FieldOrder
import TaskMail.Proofs.InsertionOrder
import TaskMail.Proofs.Locality
import TaskMail.Proofs.LogRecords
import TaskMail.Proofs.MailWords
import TaskMail.Proofs.PeerInfluence
import TaskMail.Proofs.QueryText
import TaskMail.Proofs.ResponseCut
import TaskMail.Proofs.ResponseText
import TaskMail.Proofs.ScanLoop
import TaskMail.Proofs.SendDecision
import TaskMail.Proofs.TableShape
import TaskMail.Recording
